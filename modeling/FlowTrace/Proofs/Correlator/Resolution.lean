import FlowTrace.Proofs.Correlator
import FlowTrace.Proofs.Outstanding.Account

/-!
# What a response makes of the outstanding probes

- **Attempts** (`Outstanding.take`, `Correlator.search`): the search for the probe of a response as
  it runs, each attempt on the index that the one before has left. An attempt that finds nothing has
  changed nothing (`run_take`), so the search does what `Correlator.claim?` says (`run_search`).
- **Ways to a probe** (`named_of_strange`): a response that is not about the target leads to a probe
  by flow and token only.
- **Resolution** (`Correlator.Resolves`): what an event says about the probe of a response, and what
  is left of the index.
- **Main result** (`resolves_one_or_leaves`): over every index that calls lead to, a response takes
  exactly one probe out and gives the event of this probe, or it leaves the index as it is.
-/

namespace FlowTrace

open Packet

namespace Outstanding

/-! ## Attempts -/

/-- Takes the probe with a token out of the shard of a flow, if there is one. -/
def take (flow token : UInt16) : StateM Outstanding (Option PendingProbe) := fun o =>
  ((o.shard? flow).bind (·.find token),
    { o with shards := o.shards.modify flow.toNat (·.erase token) })

/-- Takes the probe with a token out, if it is waiting on exactly one flow. -/
def takeUnique (token : UInt16) : StateM Outstanding (Option PendingProbe) := fun o =>
  match o.owners token with
  | [flow] => take flow token o
  | _ => (none, o)

/-- What an attempt amounts to, given what a removal finds in an index. -/
def attempted (o : Outstanding) : Option (PendingProbe × Outstanding) →
    Option PendingProbe × Outstanding
  | some (p, o') => (some p, o')
  | none => (none, o)

/-- A shard without the token is the same once it is erased. -/
theorem erase_of_find_eq_none {s : Shard} {token : UInt16} (h : s.find token = none) :
    s.erase token = s := by
  refine List.filter_eq_self.mpr fun p hp => ?_
  simpa using Shard.find_eq_none.mp h p hp

/-- Taking a probe out is its removal; where there is none, the index stays as it is. -/
theorem run_take (o : Outstanding) (flow token : UInt16) :
    (take flow token).run o = o.attempted (o.remove flow token) := by
  show ((o.shard? flow).bind (·.find token),
    { o with shards := o.shards.modify flow.toNat (·.erase token) }) = _
  unfold remove
  cases found : (o.shard? flow).bind (·.find token) with
  | some p => rfl
  | none =>
    have kept : o.shards.modify flow.toNat (·.erase token) = o.shards := by
      refine List.ext_getElem? fun i => ?_
      rw [List.getElem?_modify]
      cases hs : o.shards[i]? with
      | none => rfl
      | some s =>
        by_cases here : flow.toNat = i
        · subst here
          have absent : s.find token = none := by
            rw [shard?, hs] at found
            exact found
          simp [erase_of_find_eq_none absent]
        · simp [here]
    simp [attempted, kept]

/-- A removal takes the probe out of its own shard; the other shards have no such probe. -/
theorem WF.shard?_remove {o o' : Outstanding} (wf : o.WF) {p : PendingProbe}
    (h : o.remove p.flow p.token = some (p, o')) (flow : UInt16) :
    o'.shard? flow = (o.shard? flow).map (List.filter (· ≠ p)) := by
  obtain ⟨t, ht, found, rfl⟩ := remove_eq_some h
  simp only [shard?, List.getElem?_modify]
  cases hs : o.shards[flow.toNat]? with
  | none => rfl
  | some s =>
    simp only [Option.map_eq_map, Option.map_some, Option.some.injEq]
    by_cases own : p.flow.toNat = flow.toNat
    · rw [shard?, own, hs] at ht
      obtain rfl := Option.some.inj ht
      have distinct := wf.token s (List.mem_of_getElem? hs)
      rw [if_pos own]
      refine List.filter_congr fun q hq => ?_
      have hsame : q.token = p.token ↔ q = p :=
        ⟨List.inj_on_of_nodup_map distinct hq (Shard.find_eq_some found).1, congrArg _⟩
      rw [Bool.eq_iff_iff]
      simp [hsame]
    · rw [if_neg own]
      refine (List.filter_eq_self.mpr fun q hq => ?_).symm
      have other : q ≠ p := fun e => own (e ▸ wf.flow _ s hs q hq)
      simpa using other

theorem run_takeUnique (o : Outstanding) (token : UInt16) :
    (takeUnique token).run o = o.attempted (o.removeUnique token) := by
  show (match o.owners token with
    | [flow] => (take flow token).run o
    | _ => (none, o)) = _
  unfold removeUnique
  match o.owners token with
  | [] => rfl
  | [flow] => exact run_take o flow token
  | _ :: _ :: _ => rfl

end Outstanding

namespace Correlator

/-- The attempts by flow and token, and by the token alone. -/
def takeNamed (c : Correlator) (r : Response) : StateM Outstanding (Option PendingProbe) := do
  let byToken := if c.aimedAtTarget r then Outstanding.takeUnique r.token else pure none
  match c.plan.flowForKey r.flowKey with
  | some flow =>
    match ← Outstanding.take flow r.token with
    | some p => return some p
    | none => byToken
  | none => byToken

/-- The attempt that undoes the changes of a NAT. -/
def takePatched (c : Correlator) (r : Response) : StateM Outstanding (Option PendingProbe) := do
  match c.patchOwners (← get) r with
  | [(flow, token)] => Outstanding.take flow token
  | _ => return none

/-- The search for the probe that a response answers, one attempt after the other, and whether the
changes of a NAT had to be undone. -/
def search (c : Correlator) (r : Response) : StateM Outstanding (Option (PendingProbe × Bool)) := do
  match ← c.takeNamed r with
  | some p => return some (p, false)
  | none =>
    if c.aimedAtTarget r then return (← c.takePatched r).map (·, true)
    else return none

/-- The event of a response, as the search for its probe gives it. -/
def resolve (c : Correlator) (r : Response) (receivedAt : Instant) :
    StateM Outstanding (Option Event) := do
  let found ← c.search r
  let rest ← get
  return found.map fun (p, patched) => c.outcome ⟨p, patched, rest⟩ r receivedAt

theorem run_takeNamed (c : Correlator) (r : Response) (o : Outstanding) :
    (c.takeNamed r).run o = o.attempted (c.removeNamed o r) := by
  have byToken : (if c.aimedAtTarget r then Outstanding.takeUnique r.token else pure none).run o =
      o.attempted (if c.aimedAtTarget r then o.removeUnique r.token else none) := by
    split
    · exact o.run_takeUnique r.token
    · rfl
  unfold takeNamed removeNamed
  cases c.plan.flowForKey r.flowKey with
  | none => exact byToken
  | some flow =>
    simp only [StateT.run_bind, o.run_take]
    cases o.remove flow r.token with
    | none => exact byToken
    | some found => rfl

theorem run_takePatched (c : Correlator) (r : Response) (o : Outstanding) :
    (c.takePatched r).run o = o.attempted (c.removePatched o r) := by
  unfold takePatched removePatched
  simp only [StateT.run_bind, StateT.run_get, pure_bind]
  rcases c.patchOwners o r with _ | ⟨⟨flow, token⟩, _ | _⟩
  · rfl
  · exact o.run_take flow token
  · rfl

/-- The search finds what `claim?` finds. If it finds nothing, the index is what it was. -/
theorem run_search (c : Correlator) (r : Response) (o : Outstanding) :
    (c.search r).run o = match c.claim? o r with
      | some claim => (some (claim.probe, claim.patched), claim.rest)
      | none => (none, o) := by
  unfold search claim?
  simp only [StateT.run_bind, c.run_takeNamed r o]
  cases c.removeNamed o r with
  | some found => rfl
  | none =>
    show (if c.aimedAtTarget r then _ else _ : StateM Outstanding _).run o = _
    split
    · simp only [StateT.run_bind, c.run_takePatched r o]
      cases c.removePatched o r <;> rfl
    · rfl

/-- So a response changes the index only if it gives an event. -/
theorem run_resolve (c : Correlator) (r : Response) (now : Instant) (o : Outstanding) :
    (c.resolve r now).run o = match c.correlate o r now with
      | some (e, o') => (some e, o')
      | none => (none, o) := by
  unfold resolve correlate
  simp only [StateT.run_bind, c.run_search r o]
  cases c.claim? o r <;> rfl

end Correlator

/-! ## What a response is about -/

namespace Response

/-- The address that a response is about: where the quoted packet was going, or else where the
response comes from. -/
def aim (r : Response) : Address := (r.quoted.map (·.dst)).getD r.responder

/-- The labels of the first label stack among the extension objects. -/
def FirstStack (r : Response) (labels : List MplsLabel) : Prop :=
  ∃ before after, r.extensions = some ⟨before ++ .mpls labels :: after⟩ ∧
    ∀ earlier, .mpls earlier ∉ before

theorem mplsLabels_eq_some_iff {r : Response} {labels : List MplsLabel} :
    r.mplsLabels = some labels ↔ r.FirstStack labels := by
  obtain ⟨responder, kind, flowKey, token, quoted, extensions⟩ := r
  simp only [mplsLabels, FirstStack, Extensions.mplsLabels, Option.bind_eq_some_iff,
    List.findSome?_eq_some_iff]
  constructor
  · rintro ⟨⟨_⟩, rfl, before, object, after, rfl, found, none⟩
    cases object with
    | unknown classNum classSubtype body => cases found
    | mpls stack =>
      obtain rfl : stack = labels := by simpa using found
      exact ⟨before, after, rfl, fun earlier h => by simpa using none _ h⟩
  · rintro ⟨before, after, rfl, first⟩
    refine ⟨_, rfl, before, .mpls labels, after, rfl, rfl, fun object h => ?_⟩
    cases object with
    | unknown classNum classSubtype body => rfl
    | mpls stack => exact absurd h (first stack)

end Response

namespace Correlator

theorem aimedAtTarget_iff {c : Correlator} {r : Response} :
    c.aimedAtTarget r = true ↔ r.aim = c.target := by
  unfold aimedAtTarget Response.aim
  cases r.quoted <;> simp

/-- A response that is not about the target leads to the probe that it names, and to no other. -/
theorem named_of_strange {c : Correlator} {o : Outstanding} {r : Response} {claim : Claim}
    (wf : o.WF) (strange : r.aim ≠ c.target) (h : c.claim? o r = some claim) :
    c.plan.flowForKey r.flowKey = some claim.probe.flow ∧ claim.probe.token = r.token := by
  have aimed : c.aimedAtTarget r = false :=
    Bool.eq_false_iff.mpr (aimedAtTarget_iff.not.mpr strange)
  unfold claim? removeNamed at h
  simp only [aimed, Bool.false_eq_true, if_false, Option.or_none] at h
  cases key : c.plan.flowForKey r.flowKey with
  | none => simp [key] at h
  | some flow =>
    simp only [key] at h
    split at h
    · rename_i q o' removed
      obtain rfl : Claim.mk q false o' = claim := by simpa using h
      obtain ⟨-, rfl, token⟩ := wf.remove_mem removed
      exact ⟨rfl, token⟩
    · cases h

/-- A response that names a waiting probe claims it. -/
theorem claim?_of_named {c : Correlator} {o : Outstanding} {r : Response} {p : PendingProbe}
    (wf : o.WF) (waits : p ∈ o.waiting) (flow : c.plan.flowForKey r.flowKey = some p.flow)
    (token : p.token = r.token) : ∃ o', c.claim? o r = some ⟨p, false, o'⟩ := by
  obtain ⟨o', removed⟩ := wf.exists_remove waits
  rw [token] at removed
  exact ⟨o', claim?_of_removeNamed (by simp [removeNamed, flow, removed])⟩

/-! ## Resolution -/

/-- A response resolves the probe `p` of an index with the event `e`, and leaves the index `o'`. -/
structure Resolves (c : Correlator) (o : Outstanding) (r : Response) (now : Instant)
    (p : PendingProbe) (e : Event) (o' : Outstanding) : Prop where
  waiting : o.waiting.Perm (p :: o'.waiting)
  shard : ∀ flow, o'.shard? flow = (o.shard? flow).map (List.filter (· ≠ p))
  /-- The probe stays counted. -/
  count : o'.count = o.count
  inRound : ∀ round, o'.inRound round = o.inRound round
  names : e.resolved? = some p.key
  answered : (∃ a, e = .answered a) ↔ now.nanos ≤ p.deadline.nanos
  late : p.deadline.nanos < now.nanos → e = .timedOut p.flow p.ttl p.round
  answer : ∀ a, e = .answered a → a.responder = r.responder ∧ a.kind = r.kind ∧
    (a.rtt.nanos : Int) = max 0 ((now.nanos : Int) - p.sentAt.nanos) ∧
    ∀ labels, a.mpls = some labels ↔ r.FirstStack labels
  strange : r.aim ≠ c.target → c.plan.flowForKey r.flowKey = some p.flow ∧ p.token = r.token

/-- The claim of a response, and the event that it gives. -/
theorem resolves_of_claim? {c : Correlator} {o : Outstanding} {r : Response} {claim : Claim}
    (wf : o.WF) (now : Instant) (h : c.claim? o r = some claim) :
    c.Resolves o r now claim.probe (c.outcome claim r now) claim.rest := by
  have removed := remove_of_claim? wf h
  have claims := wf.claims_remove removed
  refine ⟨claims.waiting, wf.shard?_remove removed, claims.count wf, claims.inRound,
    resolved?_outcome c claim r now, ?_, fun late => ?_, fun a ha => ?_,
    fun strange => named_of_strange wf strange h⟩
  · simp only [outcome]
    split
    · simpa [PendingProbe.timedOut]
    · rename_i inTime
      simpa using Nat.le_of_not_lt inTime
  · simp [outcome, late, PendingProbe.timedOut]
  · simp only [outcome] at ha
    split at ha
    · cases ha
    · obtain rfl := Event.answered.inj ha
      refine ⟨rfl, rfl, ?_, fun labels => Response.mplsLabels_eq_some_iff⟩
      show ((now.nanos - claim.probe.sentAt.nanos : Nat) : Int) = _
      omega

open Outstanding.Account in
/-- Over every index that calls lead to, a response gives no event and leaves the index as it is, or
it gives the event of one probe that was waiting. This probe is taken out; it stays counted, and all
other probes and counts are as before. The event is an answer if the response is not after the
deadline, with the time since the probe was sent, cut off at zero, and the first label stack. A
response that is not about the target resolves only the probe that it names by flow and token. -/
theorem resolves_one_or_leaves (c : Correlator) (flows : UInt16)
    (calls : List Outstanding.Call) (r : Response) (now : Instant) :
    let o := indexAfter flows calls
    let event := ((c.resolve r now).run o).1
    let o' := ((c.resolve r now).run o).2
    c.correlate o r now = event.map (·, o') ∧
    (event = none → o' = o) ∧
    (∀ e, event = some e → ∃ p, c.Resolves o r now p e o') ∧
    ∀ p ∈ o.waiting, c.plan.flowForKey r.flowKey = some p.flow → p.token = r.token →
      ∃ e, event = some e ∧ c.Resolves o r now p e o' := by
  intro o event o'
  have wf : o.WF := (wf_indexAfter flows calls).1
  subst event o'
  rw [c.run_resolve r now o]
  cases found : c.correlate o r now with
  | none =>
    refine ⟨rfl, fun _ => rfl, fun e h => ?_, fun p waits flow token => ?_⟩
    · cases h
    · obtain ⟨o', claimed⟩ := claim?_of_named wf waits flow token
      simp [correlate, claimed] at found
  | some found' =>
    obtain ⟨e, o'⟩ := found'
    obtain ⟨claim, claimed, rfl, rfl⟩ := correlate_eq_some found
    have resolves := resolves_of_claim? wf now claimed
    refine ⟨rfl, fun h => ?_, fun e h => ?_, fun p waits flow token => ?_⟩
    · cases h
    · obtain rfl := Option.some.inj h
      exact ⟨claim.probe, resolves⟩
    · obtain ⟨o'', own⟩ := claim?_of_named wf waits flow token
      obtain rfl := Option.some.inj (claimed.symm.trans own)
      exact ⟨_, rfl, resolves⟩

end Correlator

end FlowTrace
