import FlowTrace.Proofs.Outstanding
import Mathlib.Data.List.Perm.Subperm

/-!
# Outstanding probes over any sequence of calls

An `Account` is an index with the history of the calls on it: the probes that were registered, the
probes that claims gave back, and the rounds that were settled. `Reached` holds of every account
that calls lead to, if a round is settled at most once for each claimed probe of it.

- **Balance** (`Balanced`): registered probes wait or were claimed, and the unsettled probes of a
  round are those that wait and those that are claimed and owed. Every call keeps it
  (`Balanced.call`).
- **Sequences of calls** (`accounts_for_every_probe`): all numbers that the index gives follow from
  the balance, a registration is refused only where it has to be, and no count goes below zero.
- **Indexes** (`indexAfter`): every index that calls lead to is well-formed, whatever they settle
  (`wf_indexAfter`).
-/

namespace FlowTrace.Outstanding

/-- A call on an index. -/
inductive Call where
  | insert (p : PendingProbe)
  | remove (flow token : UInt16)
  | removeUnique (token : UInt16)
  | expire (now : Instant)
  | drainAll
  | settle (rounds : List UInt32)

/-- An index with the history of the calls on it. -/
structure Account where
  index : Outstanding
  /-- The probes that were registered. -/
  accepted : List PendingProbe
  /-- The probes that claims gave back. -/
  claimed : List PendingProbe
  /-- The rounds that were settled, one for each probe. -/
  settled : List UInt32

namespace Account

/-- Before the first call. -/
def new (flows : UInt16) : Account := ⟨.new flows, [], [], []⟩

/-- The rounds of the claimed probes that are not settled. -/
def owed (a : Account) : List UInt32 := (a.claimed.map (·.round)).diff a.settled

/-- The account after a claim. -/
def claim (a : Account) (ps : List PendingProbe) (index : Outstanding) : Account :=
  { a with index := index, claimed := ps ++ a.claimed }

/-- The account after a call. -/
def call (a : Account) : Call → Account
  | .insert p =>
    match a.index.insert? p with
    | some index => { a with index := index, accepted := p :: a.accepted }
    | none => a
  | .remove flow token =>
    match a.index.remove flow token with
    | some (p, index) => a.claim [p] index
    | none => a
  | .removeUnique token =>
    match a.index.removeUnique token with
    | some (p, index) => a.claim [p] index
    | none => a
  | .expire now => a.claim (a.index.expire now).1 (a.index.expire now).2
  | .drainAll => a.claim a.index.drainAll.1 a.index.drainAll.2
  | .settle rounds => { a with index := a.index.settle rounds, settled := rounds ++ a.settled }

/-- Only claimed probes are settled, each of them once. -/
def Allows (a : Account) : Call → Prop
  | .settle rounds => rounds.Subperm a.owed
  | _ => True

/-- The accounts that calls lead to. -/
inductive Reached (flows : UInt16) : Account → Prop where
  | new : Reached flows (.new flows)
  | call {a : Account} (c : Call) : Reached flows a → a.Allows c → Reached flows (a.call c)

/-- The index agrees with its history. -/
structure Balanced (flows : UInt16) (a : Account) : Prop where
  wf : a.index.WF
  length : a.index.shards.length = max 1 flows.toNat
  accepted : a.accepted.Perm (a.index.waiting ++ a.claimed)
  settled : ∀ r, a.settled.count r ≤ (a.claimed.map (·.round)).count r
  inRound : ∀ r, a.index.inRound r = (a.index.waiting.map (·.round)).count r + a.owed.count r

variable {flows : UInt16} {a : Account}

theorem count_owed (a : Account) (r : UInt32) :
    a.owed.count r = (a.claimed.map (·.round)).count r - a.settled.count r := List.count_diff ..

theorem balanced_new (flows : UInt16) : Balanced flows (new flows) where
  wf := new_wf flows
  length := by
    by_cases h : flows = 0
    · simp [new, Outstanding.new, h]
    · have hpos : 0 < flows.toNat := Nat.pos_of_ne_zero fun e => h (UInt16.toNat_inj.mp e)
      simp only [new, Outstanding.new, h, if_false, List.length_replicate]
      omega
  accepted := by simp [new, new_waiting]
  settled _ := Nat.le_refl _
  inRound r := by
    rw [show (new flows).index.waiting = [] from new_waiting flows]
    rfl

/-- Whatever is claimed stays counted, and is owed. -/
theorem Balanced.claim (h : Balanced flows a) {ps : List PendingProbe} {index : Outstanding}
    (hc : Claims a.index ps index) : Balanced flows (a.claim ps index) where
  wf := hc.wf h.wf
  length := hc.length.trans h.length
  accepted := by
    refine h.accepted.trans ((hc.waiting.append_right a.claimed).trans ?_)
    rw [List.append_assoc]
    exact List.perm_append_comm_assoc ..
  settled r := by
    have := h.settled r
    simp only [Account.claim, List.map_append, List.count_append]
    omega
  inRound r := by
    have before := h.inRound r
    have moved := (hc.waiting.map (·.round)).count_eq r
    have paid := h.settled r
    rw [count_owed] at before ⊢
    rw [show (a.claim ps index).index.inRound r = a.index.inRound r from hc.inRound r]
    simp only [Account.claim, List.map_append, List.count_append] at *
    omega

theorem Balanced.insert (h : Balanced flows a) {p : PendingProbe} {index : Outstanding}
    (hi : a.index.insert? p = some index) :
    Balanced flows { a with index := index, accepted := p :: a.accepted } where
  wf := h.wf.insert? hi
  length := (insert?_length hi).trans h.length
  accepted := (h.accepted.cons p).trans ((insert?_waiting hi).symm.append_right a.claimed)
  settled := h.settled
  inRound r := by
    have before := h.inRound r
    have waits := ((insert?_waiting hi).map (·.round)).count_eq r
    rw [List.map_cons, List.count_cons] at waits
    simp only [beq_iff_eq] at waits
    show index.inRound r = (index.waiting.map (·.round)).count r + a.owed.count r
    rw [insert?_inRound hi]
    omega

theorem Balanced.settle (h : Balanced flows a) {rounds : List UInt32}
    (hr : rounds.Subperm a.owed) : Balanced flows (a.call (.settle rounds)) where
  wf := h.wf.settle rounds
  length := (congrArg List.length (settle_shards a.index rounds)).trans h.length
  accepted := by
    show a.accepted.Perm ((a.index.settle rounds).waiting ++ a.claimed)
    rw [settle_waiting]
    exact h.accepted
  settled r := by
    have := hr.count_le r
    have := a.count_owed r
    have := h.settled r
    simp only [call, List.count_append]
    omega
  inRound r := by
    have before := h.inRound r
    have most := hr.count_le r
    rw [count_owed] at before most ⊢
    show (a.index.settle rounds).inRound r = ((a.index.settle rounds).waiting.map (·.round)).count r
      + ((a.claimed.map (·.round)).count r - (rounds ++ a.settled).count r)
    rw [h.wf.settle_inRound, settle_waiting, List.count_append]
    omega

/-- Every call keeps the balance. -/
theorem Balanced.call (h : Balanced flows a) {c : Call} (hc : a.Allows c) :
    Balanced flows (a.call c) := by
  cases c with
  | insert p =>
    simp only [Account.call]
    split
    · exact h.insert ‹_›
    · exact h
  | remove flow token =>
    simp only [Account.call]
    split
    · exact h.claim (h.wf.claims_remove ‹_›)
    · exact h
  | removeUnique token =>
    simp only [Account.call]
    split
    · exact h.claim (h.wf.removeUnique_mem ‹_›).2.2
    · exact h
  | expire now => exact h.claim (claims_expire a.index now)
  | drainAll => exact h.claim (claims_drainAll a.index)
  | settle rounds => exact h.settle hc

theorem Reached.balanced (h : Reached flows a) : Balanced flows a := by
  induction h with
  | new => exact balanced_new flows
  | call c _ hc ih => exact ih.call hc

/-- Each probe is counted while it waits and until it is settled. -/
theorem Balanced.count (h : Balanced flows a) :
    a.index.count = a.index.waiting.length + a.owed.length := by
  rw [h.wf.count_eq_sum, Finset.sum_congr rfl fun r _ => h.inRound r, Finset.sum_add_distrib,
    sum_count, sum_count, List.length_map]

/-- The round that is settled next is counted still. -/
theorem Balanced.settle_pos (h : Balanced flows a) {before after : List UInt32} {r : UInt32}
    (hr : (before ++ r :: after).Subperm a.owed) : 0 < (a.index.settle before).inRound r := by
  have most := hr.count_le r
  have := h.inRound r
  rw [List.count_append, List.count_cons_self] at most
  rw [h.wf.settle_inRound]
  omega

/-- After any sequence of calls the index counts exactly the probes that wait and those that are
claimed and owed, in all and round by round. A registered probe waits or was given back by one
claim. A registration is refused only where the flow does not exist or the token is waiting on it,
and then changes nothing. No settling takes from a count that is zero. -/
theorem accounts_for_every_probe (h : Reached flows a) :
    (a.index.count = ∑ r, a.index.inRound r ∧
      a.index.count = a.index.waiting.length + a.owed.length) ∧
    (∀ r, a.index.inRound r = (a.index.waiting.map (·.round)).count r + a.owed.count r) ∧
    a.accepted.Perm (a.index.waiting ++ a.claimed) ∧
    (∀ p, (a.index.insert? p = none ↔ max 1 flows.toNat ≤ p.flow.toNat ∨
        ∃ q ∈ a.index.waiting, q.flow = p.flow ∧ q.token = p.token) ∧
      (a.index.insert? p = none → a.call (.insert p) = a)) ∧
    ∀ before r after, a.Allows (.settle (before ++ r :: after)) →
      0 < (a.index.settle before).inRound r ∧ 0 < (a.index.settle before).count := by
  have hb := h.balanced
  refine ⟨⟨hb.wf.count_eq_sum, hb.count⟩, hb.inRound, hb.accepted, fun p => ⟨?_, fun hp => ?_⟩,
    fun before r after hr => ?_⟩
  · rw [← hb.length]
    exact hb.wf.insert?_eq_none_iff
  · simp only [call, hp]
  · have hpos := hb.settle_pos hr
    exact ⟨hpos, Nat.lt_of_lt_of_le hpos ((hb.wf.settle before).inRound_le_count r)⟩

/-! ## Indexes after any calls -/

/-- The index of some flows after calls that nobody has checked: a round may be settled for which
nothing was claimed. -/
def indexAfter (flows : UInt16) (calls : List Call) : Outstanding :=
  (calls.foldl call (new flows)).index

/-- Every call keeps the index well-formed and its shards in number. -/
theorem wf_call (wf : a.index.WF) (c : Call) :
    (a.call c).index.WF ∧ (a.call c).index.shards.length = a.index.shards.length := by
  have claim {ps : List PendingProbe} {index : Outstanding} (hc : Claims a.index ps index) :
      index.WF ∧ index.shards.length = a.index.shards.length := ⟨hc.wf wf, hc.length⟩
  cases c with
  | insert p =>
    simp only [Account.call]
    split
    · rename_i index hi
      exact ⟨wf.insert? hi, insert?_length hi⟩
    · exact ⟨wf, rfl⟩
  | remove flow token =>
    simp only [Account.call]
    split
    · exact claim (wf.claims_remove ‹_›)
    · exact ⟨wf, rfl⟩
  | removeUnique token =>
    simp only [Account.call]
    split
    · exact claim (wf.removeUnique_mem ‹_›).2.2
    · exact ⟨wf, rfl⟩
  | expire now => exact claim (claims_expire a.index now)
  | drainAll => exact claim (claims_drainAll a.index)
  | settle rounds => exact ⟨wf.settle rounds, congrArg List.length (settle_shards a.index rounds)⟩

/-- So the index is well-formed after any calls, and has a shard for each flow. -/
theorem wf_indexAfter (flows : UInt16) (calls : List Call) : (indexAfter flows calls).WF ∧
    (indexAfter flows calls).shards.length = max 1 flows.toNat := by
  unfold indexAfter
  induction calls using List.reverseRecOn with
  | nil => exact ⟨(balanced_new flows).wf, (balanced_new flows).length⟩
  | append_singleton calls c ih =>
    rw [List.foldl_concat]
    obtain ⟨wf, length⟩ := wf_call ih.1 c
    exact ⟨wf, length.trans ih.2⟩

/-! ## Accounts at hand -/

/-- A probe of the second round. -/
def secondRoundProbe : PendingProbe :=
  ⟨0, 1, 1, 257, ⟨0⟩, ⟨5⟩, ⟨none, none, none⟩⟩

/-- It is registered on the first of two flows and expires. -/
def expiredAccount : Account := ((new 2).call (.insert secondRoundProbe)).call (.expire ⟨5⟩)

/-- The expired probe is still counted, and may be settled once. -/
theorem accounts_for_expiredAccount :
    Reached 2 expiredAccount ∧ expiredAccount.index.waiting = [] ∧
    expiredAccount.index.count = expiredAccount.index.waiting.length + expiredAccount.owed.length ∧
    expiredAccount.owed = [1] ∧ 0 < (expiredAccount.index.settle []).inRound 1 := by
  have reached : Reached 2 expiredAccount :=
    .call (.expire ⟨5⟩) (.call (.insert secondRoundProbe) .new trivial) trivial
  have allowed : expiredAccount.Allows (.settle ([] ++ 1 :: [])) := List.Subperm.refl _
  have accounts := accounts_for_every_probe reached
  exact ⟨reached, rfl, accounts.1.2, rfl, (accounts.2.2.2.2 [] 1 [] allowed).1⟩

end Account

end FlowTrace.Outstanding
