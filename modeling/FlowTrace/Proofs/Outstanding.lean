import FlowTrace.Outstanding
import Mathlib.Algebra.BigOperators.Group.Finset.Piecewise
import Mathlib.Algebra.Order.BigOperators.Group.Finset
import Mathlib.Data.FinEnum
import Mathlib.Data.List.Nodup

/-!
# What the operations on outstanding probes do

Every operation is described by its effect on two views of the index: the list of waiting probes
(`Outstanding.waiting`, up to order) and the number of unsettled probes of a round
(`Outstanding.inRound`).

- **Well-formedness** (`Outstanding.WF`): each probe is in the shard of its flow, no two probes of
  a shard have one token, a round is counted once, by a positive number, and the number of all
  unsettled probes is the sum over the rounds (`WF.count_eq_sum`).
- **Registration** (`insert?_waiting`, `insert?_inRound`): one more waiting probe, one more
  unsettled probe of its round.
- **Claims** (`Claims`): `remove`, `removeUnique`, `expire` and `drainAll` take probes out of the
  waiting ones and change no count.
- **Settling** (`settle_inRound`): `settle` lowers counts and changes no waiting probe.
-/

namespace FlowTrace

/-- A probe of a session: flow, round and hop limit. -/
structure ProbeKey where
  flow : UInt16
  round : UInt32
  ttl : UInt8
  deriving DecidableEq, Repr

/-- The probe that is registered. -/
def PendingProbe.key (p : PendingProbe) : ProbeKey := ⟨p.flow, p.round, p.ttl⟩

/-- The probe that an event resolves. -/
def Event.resolved? : Event → Option ProbeKey
  | .answered a => some ⟨a.flow, a.round, a.ttl⟩
  | .timedOut flow ttl round => some ⟨flow, round, ttl⟩
  | _ => none

theorem Event.resolvedRound_eq (e : Event) : e.resolvedRound = e.resolved?.map (·.round) := by
  cases e <;> rfl

/-! ## One entry of a list changed -/

/-- A list in which one entry is replaced: the others contribute the same before and after. -/
theorem flatMap_set_perm {α β : Type} {l : List α} {i : Nat} {a : α} (f : α → List β)
    (h : l[i]? = some a) :
    ∃ rest, (l.flatMap f).Perm (f a ++ rest) ∧ ∀ b, ((l.set i b).flatMap f).Perm (f b ++ rest) := by
  induction l generalizing i with
  | nil => simp at h
  | cons c l ih =>
    cases i with
    | zero =>
      obtain rfl : c = a := by simpa using h
      exact ⟨l.flatMap f, by simp, fun b => by simp⟩
    | succ i =>
      obtain ⟨rest, hl, hs⟩ := ih (by simpa using h)
      have swap (x : List β) : (f c ++ (x ++ rest)).Perm (x ++ (f c ++ rest)) := by
        rw [← List.append_assoc, ← List.append_assoc]
        exact List.perm_append_comm.append_right rest
      refine ⟨f c ++ rest, ?_, fun b => ?_⟩
      · exact ((List.Perm.append_left (f c) hl).trans (swap (f a)))
      · exact ((List.Perm.append_left (f c) (hs b)).trans (swap (f b)))

/-- An entry of a modified list comes from the same place of the list before. -/
theorem getElem?_of_modify {α : Type} {l : List α} {i j : Nat} {f : α → α} {b : α}
    (h : (l.modify i f)[j]? = some b) :
    ∃ a, l[j]? = some a ∧ ((i = j ∧ b = f a) ∨ b = a) := by
  rw [List.getElem?_modify] at h
  obtain ⟨a, ha, rfl⟩ := Option.map_eq_some_iff.mp h
  refine ⟨a, ha, ?_⟩
  split
  · exact .inl ⟨‹_›, rfl⟩
  · exact .inr rfl

/-- The flattened list with one entry replaced. -/
theorem flatten_modify_perm {α : Type} {l : List (List α)} {i : Nat} {s : List α}
    (f : List α → List α) (h : l[i]? = some s) :
    ∃ rest, l.flatten.Perm (s ++ rest) ∧ (l.modify i f).flatten.Perm (f s ++ rest) := by
  obtain ⟨rest, hl, hs⟩ := flatMap_set_perm id h
  refine ⟨rest, by simpa [List.flatMap_id] using hl, ?_⟩
  rw [List.modify_eq_set_getElem?, h, Option.map_eq_map, Option.map_some, Option.getD_some]
  simpa [List.flatMap_id] using hs (f s)

/-! ## Shards -/

namespace Shard

theorem find_eq_some {s : Shard} {token : UInt16} {p : PendingProbe} (h : s.find token = some p) :
    p ∈ s ∧ p.token = token := by
  have hp := List.find?_some h
  exact ⟨List.mem_of_find?_eq_some h, by simpa using hp⟩

theorem find_eq_none {s : Shard} {token : UInt16} :
    s.find token = none ↔ ∀ p ∈ s, p.token ≠ token := by
  simp [find]

theorem contains_iff {s : Shard} {token : UInt16} :
    s.contains token = true ↔ ∃ p ∈ s, p.token = token := by
  simp [contains]

/-- Where tokens are distinct, exactly the found probe is erased. -/
theorem perm_erase_of_find {s : Shard} {token : UInt16} {p : PendingProbe}
    (hs : (s.map (·.token)).Nodup) (h : s.find token = some p) :
    List.Perm s (p :: s.erase token) := by
  induction s with
  | nil => simp [find] at h
  | cons q s ih =>
    simp only [List.map_cons, List.nodup_cons, List.mem_map, not_exists, not_and] at hs
    by_cases hq : q.token = token
    · obtain rfl : q = p := by simpa [find, hq] using h
      have rest : Shard.erase (q :: s) token = s := by
        have hsame : ∀ r ∈ s, r.token ≠ token := fun r hr e => hs.1 r hr (e.trans hq.symm)
        simp [erase, hq]
        simpa using hsame
      rw [rest]
    · have hf : Shard.find s token = some p := by simpa [find, hq] using h
      have rest : Shard.erase (q :: s) token = q :: Shard.erase s token := by simp [erase, hq]
      rw [rest]
      exact ((ih hs.2 hf).cons q).trans (List.Perm.swap p q _)

end Shard

namespace Outstanding

/-- The counts of all rounds together. -/
def totalCount (l : List (UInt32 × Nat)) : Nat := l.foldr (fun x n => x.2 + n) 0

theorem totalCount_cons (x : UInt32 × Nat) (l : List (UInt32 × Nat)) :
    totalCount (x :: l) = x.2 + totalCount l := rfl

/-- What every operation keeps (module doc). -/
structure WF (o : Outstanding) : Prop where
  flow : ∀ (i : Nat) (s : Shard), o.shards[i]? = some s → ∀ p ∈ s, p.flow.toNat = i
  token : ∀ s ∈ o.shards, (s.map (·.token)).Nodup
  rounds : (o.perRound.map Prod.fst).Nodup
  pos : ∀ x ∈ o.perRound, 0 < x.2
  total : o.count = totalCount o.perRound

/-- A probe is waiting. -/
def Waits (o : Outstanding) (k : ProbeKey) : Prop := ∃ p ∈ o.waiting, p.key = k

instance (o : Outstanding) (k : ProbeKey) : Decidable (o.Waits k) :=
  inferInstanceAs (Decidable (∃ p ∈ o.waiting, p.key = k))

theorem new_waiting (flows : UInt16) : (new flows).waiting = [] := by simp [new, waiting]

theorem new_wf (flows : UInt16) : (new flows).WF where
  flow i s h p hp := by
    obtain rfl : s = [] := (List.mem_replicate.mp (List.mem_of_getElem? h)).2
    cases hp
  token s h := by
    obtain rfl : s = [] := (List.mem_replicate.mp h).2
    exact List.nodup_nil
  rounds := List.nodup_nil
  pos _ h := by cases h
  total := rfl

theorem mem_waiting {o : Outstanding} {p : PendingProbe} :
    p ∈ o.waiting ↔ ∃ (i : Nat) (s : Shard), o.shards[i]? = some s ∧ p ∈ s := by
  constructor
  · intro h
    obtain ⟨s, hs, hp⟩ := List.mem_flatten.mp h
    obtain ⟨i, hi⟩ := List.getElem?_of_mem hs
    exact ⟨i, s, hi, hp⟩
  · rintro ⟨i, s, hs, hp⟩
    exact List.mem_flatten.mpr ⟨s, List.mem_of_getElem? hs, hp⟩

/-- A waiting probe is in the shard of its flow. -/
theorem WF.shard_of_mem {o : Outstanding} (wf : o.WF) {p : PendingProbe} (h : p ∈ o.waiting) :
    ∃ s, o.shard? p.flow = some s ∧ p ∈ s := by
  obtain ⟨i, s, hs, hp⟩ := mem_waiting.mp h
  obtain rfl := wf.flow i s hs p hp
  exact ⟨s, hs, hp⟩

theorem WF.flow_lt {o : Outstanding} (wf : o.WF) {p : PendingProbe} (h : p ∈ o.waiting) :
    p.flow.toNat < o.shards.length := by
  obtain ⟨s, hs, -⟩ := wf.shard_of_mem h
  exact (List.getElem?_eq_some_iff.mp hs).1

/-- Two waiting probes of one flow have different tokens. -/
theorem WF.eq_of_token {o : Outstanding} (wf : o.WF) {p q : PendingProbe} (hp : p ∈ o.waiting)
    (hq : q ∈ o.waiting) (hf : p.flow = q.flow) (ht : p.token = q.token) : p = q := by
  obtain ⟨s, hs, hps⟩ := wf.shard_of_mem hp
  obtain ⟨s', hs', hqs⟩ := wf.shard_of_mem hq
  rw [← hf, hs] at hs'
  obtain rfl : s = s' := by simpa using hs'
  exact List.inj_on_of_nodup_map (wf.token s (List.mem_of_getElem? hs)) hps hqs ht

/-! ## Counts per round -/

theorem lookup_increment (r r' : UInt32) (l : List (UInt32 × Nat)) :
    ((increment r l).lookup r').getD 0 = (l.lookup r').getD 0 + if r = r' then 1 else 0 := by
  induction l with
  | nil =>
    by_cases h : r = r'
    · simp [increment, h]
    · have h' : (r' == r) = false := by simpa using fun e => h e.symm
      simp [increment, List.lookup_cons, h, h']
  | cons x l ih =>
    obtain ⟨q, n⟩ := x
    simp only [increment]
    by_cases hq : q = r <;> by_cases hr : r' = q
    · subst hq hr; simp
    · subst hq
      have h' : (r' == q) = false := by simpa using hr
      simp [List.lookup_cons, h', Ne.symm hr]
    · subst hr
      simp [hq, Ne.symm hq]
    · have h' : (r' == q) = false := by simpa using hr
      simpa [hq, List.lookup_cons, h'] using ih

theorem map_fst_increment (r : UInt32) (l : List (UInt32 × Nat)) :
    (increment r l).map Prod.fst =
      if r ∈ l.map Prod.fst then l.map Prod.fst else l.map Prod.fst ++ [r] := by
  induction l with
  | nil => rfl
  | cons x l ih =>
    obtain ⟨q, n⟩ := x
    simp only [increment]
    by_cases hq : q = r
    · simp [hq]
    · have hq' : r ≠ q := fun e => hq e.symm
      simp only [hq, ↓reduceIte, List.map_cons, ih, List.mem_cons, hq', false_or]
      split <;> simp

theorem nodup_increment {r : UInt32} {l : List (UInt32 × Nat)} (h : (l.map Prod.fst).Nodup) :
    ((increment r l).map Prod.fst).Nodup := by
  rw [map_fst_increment]
  split
  · exact h
  · rename_i hr
    exact List.nodup_append.mpr ⟨h, by simp, fun a ha b hb e => hr (by
      obtain rfl : b = r := by simpa using hb
      exact e ▸ ha)⟩

theorem pos_increment {r : UInt32} {l : List (UInt32 × Nat)} (h : ∀ x ∈ l, 0 < x.2) :
    ∀ x ∈ increment r l, 0 < x.2 := by
  induction l with
  | nil =>
    intro x hx
    obtain rfl : x = (r, 1) := by simpa [increment] using hx
    exact Nat.one_pos
  | cons y l ih =>
    obtain ⟨q, n⟩ := y
    intro x hx
    simp only [increment] at hx
    split at hx
    · rcases List.mem_cons.mp hx with rfl | hx
      · exact Nat.succ_pos n
      · exact h x (List.mem_cons_of_mem _ hx)
    · rcases List.mem_cons.mp hx with rfl | hx
      · exact h _ List.mem_cons_self
      · exact ih (fun z hz => h z (List.mem_cons_of_mem _ hz)) x hx

theorem totalCount_increment (r : UInt32) (l : List (UInt32 × Nat)) :
    totalCount (increment r l) = totalCount l + 1 := by
  induction l with
  | nil => rfl
  | cons x l ih =>
    obtain ⟨q, n⟩ := x
    simp only [increment]
    split
    · simp only [totalCount_cons]
      omega
    · simp only [totalCount_cons, ih, Nat.add_assoc]

theorem decrement?_eq_none {r : UInt32} {l : List (UInt32 × Nat)} (h : decrement? r l = none) :
    l.lookup r = none := by
  induction l with
  | nil => rfl
  | cons x l ih =>
    obtain ⟨q, n⟩ := x
    simp only [decrement?] at h
    split at h
    · cases h
    · rename_i hq
      have hq' : (r == q) = false := by simpa using fun e => hq e.symm
      simpa [List.lookup_cons, hq'] using ih (by simpa using h)

theorem lookup_eq_none_of_not_mem {r : UInt32} {l : List (UInt32 × Nat)}
    (h : r ∉ l.map Prod.fst) : l.lookup r = none := by
  rw [List.lookup_eq_none_iff]
  intro x hx
  simpa using fun e : r = x.1 => h (List.mem_map.mpr ⟨x, hx, e.symm⟩)

theorem lookup_decrement? {r : UInt32} {l l' : List (UInt32 × Nat)}
    (nodup : (l.map Prod.fst).Nodup) (h : decrement? r l = some l') (r' : UInt32) :
    (l'.lookup r').getD 0 = (l.lookup r').getD 0 - if r = r' then 1 else 0 := by
  induction l generalizing l' with
  | nil => cases h
  | cons x l ih =>
    obtain ⟨q, n⟩ := x
    simp only [List.map_cons, List.nodup_cons] at nodup
    simp only [decrement?] at h
    split at h
    · rename_i hq
      subst hq
      obtain rfl : (if n ≤ 1 then l else (q, n - 1) :: l) = l' := by simpa using h
      -- A round whose last probe goes has no entry any more; no later entry has its number, as the
      -- numbers differ.
      by_cases hr : q = r'
      · subst hr
        split
        · rw [lookup_eq_none_of_not_mem nodup.1]; simp; omega
        · simp
      · have hr' : (r' == q) = false := by simpa using fun e => hr e.symm
        split <;> simp [List.lookup_cons, hr']
    · rename_i hq
      obtain ⟨m, hm, rfl⟩ := Option.map_eq_some_iff.mp h
      by_cases hr : q = r'
      · subst hr
        simp [Ne.symm hq]
      · have hr' : (r' == q) = false := by simpa using fun e => hr e.symm
        simpa [List.lookup_cons, hr'] using ih nodup.2 hm

theorem decrement?_sublist {r : UInt32} {l l' : List (UInt32 × Nat)}
    (h : decrement? r l = some l') :
    (l'.map Prod.fst).Sublist (l.map Prod.fst) ∧ ((∀ x ∈ l, 0 < x.2) → ∀ x ∈ l', 0 < x.2) := by
  induction l generalizing l' with
  | nil => cases h
  | cons x l ih =>
    obtain ⟨q, n⟩ := x
    simp only [decrement?] at h
    split at h
    · obtain rfl : (if n ≤ 1 then l else (q, n - 1) :: l) = l' := by simpa using h
      split
      · exact ⟨List.sublist_cons_self _ _, fun hp x hx => hp x (List.mem_cons_of_mem _ hx)⟩
      · refine ⟨List.Sublist.refl _, fun hp x hx => ?_⟩
        rcases List.mem_cons.mp hx with rfl | hx
        · show 0 < n - 1; omega
        · exact hp x (List.mem_cons_of_mem _ hx)
    · obtain ⟨m, hm, rfl⟩ := Option.map_eq_some_iff.mp h
      obtain ⟨hs, hp⟩ := ih hm
      refine ⟨hs.cons_cons q, fun hpos x hx => ?_⟩
      rcases List.mem_cons.mp hx with rfl | hx
      · exact hpos _ List.mem_cons_self
      · exact hp (fun y hy => hpos y (List.mem_cons_of_mem _ hy)) x hx

theorem totalCount_decrement? {r : UInt32} {l l' : List (UInt32 × Nat)} (hpos : ∀ x ∈ l, 0 < x.2)
    (h : decrement? r l = some l') : totalCount l' + 1 = totalCount l := by
  induction l generalizing l' with
  | nil => cases h
  | cons x l ih =>
    obtain ⟨q, n⟩ := x
    have hn : 0 < n := hpos _ List.mem_cons_self
    simp only [decrement?] at h
    split at h
    · obtain rfl : (if n ≤ 1 then l else (q, n - 1) :: l) = l' := by simpa using h
      split <;> simp only [totalCount_cons] <;> omega
    · obtain ⟨m, hm, rfl⟩ := Option.map_eq_some_iff.mp h
      have rest := ih (fun y hy => hpos y (List.mem_cons_of_mem _ hy)) hm
      simp only [totalCount_cons]
      omega

/-- The counts of all rounds, if no round is counted twice. -/
theorem sum_lookup {l : List (UInt32 × Nat)} (nodup : (l.map Prod.fst).Nodup) :
    ∑ r, (l.lookup r).getD 0 = totalCount l := by
  induction l with
  | nil => exact Finset.sum_const_zero
  | cons x l ih =>
    obtain ⟨q, n⟩ := x
    simp only [List.map_cons, List.nodup_cons] at nodup
    have head (r : UInt32) : (((q, n) :: l).lookup r).getD 0 =
        (if r = q then n else 0) + (l.lookup r).getD 0 := by
      by_cases hr : r = q
      · subst hr
        simp [lookup_eq_none_of_not_mem nodup.1]
      · have hr' : (r == q) = false := by simpa using hr
        simp [List.lookup_cons, hr, hr']
    simp only [head, Finset.sum_add_distrib, ih nodup.2, Finset.sum_ite_eq', Finset.mem_univ,
      if_true, totalCount_cons]

/-- A list has as many entries as it has of all rounds together. -/
theorem sum_count (l : List UInt32) : ∑ r, l.count r = l.length := by
  induction l with
  | nil => simp
  | cons q l ih => simp [List.count_cons, Finset.sum_add_distrib, ih]

/-- The number of unsettled probes is the sum over all rounds. -/
theorem WF.count_eq_sum {o : Outstanding} (wf : o.WF) : o.count = ∑ r, o.inRound r :=
  wf.total.trans (sum_lookup wf.rounds).symm

theorem WF.inRound_le_count {o : Outstanding} (wf : o.WF) (r : UInt32) : o.inRound r ≤ o.count := by
  rw [wf.count_eq_sum]
  exact Finset.single_le_sum (fun _ _ => Nat.zero_le _) (Finset.mem_univ r)

/-- Where no round has an unsettled probe, none is counted. -/
theorem WF.perRound_eq_nil {o : Outstanding} (wf : o.WF) (h : ∀ r, o.inRound r = 0) :
    o.perRound = [] := by
  cases hl : o.perRound with
  | nil => rfl
  | cons x l =>
    obtain ⟨q, n⟩ := x
    have hpos : 0 < n := wf.pos (q, n) (by simp [hl])
    have none : n = 0 := by simpa [inRound, hl] using h q
    omega

/-! ## Registration -/

theorem insert?_eq_some {o o' : Outstanding} {p : PendingProbe} (h : o.insert? p = some o') :
    ∃ s, o.shard? p.flow = some s ∧ s.contains p.token = false ∧
      o' = { shards := o.shards.modify p.flow.toNat (· ++ [p])
             perRound := increment p.round o.perRound
             count := o.count + 1 } := by
  unfold insert? at h
  split at h
  · cases h
  · rename_i s hs
    split at h
    · cases h
    · rename_i hc
      exact ⟨s, hs, by simpa using hc, by simpa using h.symm⟩

/-- A registered probe waits. -/
theorem insert?_waiting {o o' : Outstanding} {p : PendingProbe} (h : o.insert? p = some o') :
    o'.waiting.Perm (p :: o.waiting) := by
  obtain ⟨s, hs, -, rfl⟩ := insert?_eq_some h
  obtain ⟨rest, h₁, h₂⟩ := flatten_modify_perm (· ++ [p]) hs
  have hmid : ((s ++ [p]) ++ rest).Perm (p :: (s ++ rest)) := by
    rw [List.append_assoc]; exact List.perm_middle
  exact h₂.trans (hmid.trans (h₁.symm.cons p))

/-- A registered probe is counted in its round. -/
theorem insert?_inRound {o o' : Outstanding} {p : PendingProbe} (h : o.insert? p = some o')
    (r : UInt32) : o'.inRound r = o.inRound r + if p.round = r then 1 else 0 := by
  obtain ⟨s, -, -, rfl⟩ := insert?_eq_some h
  exact lookup_increment p.round r o.perRound

theorem insert?_count {o o' : Outstanding} {p : PendingProbe} (h : o.insert? p = some o') :
    o'.count = o.count + 1 := by
  obtain ⟨s, -, -, rfl⟩ := insert?_eq_some h
  rfl

theorem insert?_length {o o' : Outstanding} {p : PendingProbe} (h : o.insert? p = some o') :
    o'.shards.length = o.shards.length := by
  obtain ⟨s, -, -, rfl⟩ := insert?_eq_some h
  exact List.length_modify ..

theorem WF.insert? {o o' : Outstanding} {p : PendingProbe} (wf : o.WF)
    (h : o.insert? p = some o') : o'.WF := by
  obtain ⟨s, hs, hc, rfl⟩ := insert?_eq_some h
  have free : ∀ q ∈ s, q.token ≠ p.token := fun q hq e => by
    rw [Shard.contains_iff.mpr ⟨q, hq, e⟩] at hc
    cases hc
  refine ⟨fun i t ht q hq => ?_, fun t ht => ?_, nodup_increment wf.rounds, pos_increment wf.pos,
    ?_⟩
  · obtain ⟨t₀, ht₀, ⟨rfl, rfl⟩ | rfl⟩ := getElem?_of_modify ht
    · rcases List.mem_append.mp hq with hq | hq
      · exact wf.flow _ t₀ ht₀ q hq
      · rw [List.mem_singleton.mp hq]
    · exact wf.flow i t ht₀ q hq
  · obtain ⟨i, hi⟩ := List.getElem?_of_mem ht
    obtain ⟨t₀, ht₀, ⟨rfl, rfl⟩ | rfl⟩ := getElem?_of_modify hi
    · obtain rfl : s = t₀ := Option.some.inj (hs.symm.trans ht₀)
      simpa [List.nodup_append, wf.token s (List.mem_of_getElem? hs)] using free
    · exact wf.token t (List.mem_of_getElem? ht₀)
  · rw [totalCount_increment, ← wf.total]

/-! ## Claims -/

/-- The probes `ps` are claimed: they wait no longer, and nothing else changes. -/
structure Claims (o : Outstanding) (ps : List PendingProbe) (o' : Outstanding) : Prop where
  waiting : o.waiting.Perm (ps ++ o'.waiting)
  perRound : o'.perRound = o.perRound
  length : o'.shards.length = o.shards.length
  wf : o.WF → o'.WF

theorem Claims.refl (o : Outstanding) : Claims o [] o := ⟨.refl _, rfl, rfl, id⟩

theorem Claims.inRound {o o' : Outstanding} {ps : List PendingProbe} (h : Claims o ps o')
    (r : UInt32) : o'.inRound r = o.inRound r := by
  unfold Outstanding.inRound; rw [h.perRound]

theorem Claims.count {o o' : Outstanding} {ps : List PendingProbe} (h : Claims o ps o')
    (wf : o.WF) : o'.count = o.count := by
  rw [(h.wf wf).total, wf.total, h.perRound]

theorem Claims.mem {o o' : Outstanding} {ps : List PendingProbe} (h : Claims o ps o')
    {p : PendingProbe} (hp : p ∈ o'.waiting) : p ∈ o.waiting :=
  h.waiting.mem_iff.mpr (List.mem_append_right _ hp)

/-- Shards that only lose probes stay well-formed. -/
theorem WF.of_sublist {o : Outstanding} (wf : o.WF) {shards : List Shard}
    (h : ∀ (i : Nat) (s' : Shard), shards[i]? = some s' →
      ∃ s : Shard, o.shards[i]? = some s ∧ List.Sublist s' s) :
    WF { o with shards := shards } where
  flow i s' hs' p hp := by
    obtain ⟨s, hs, hsub⟩ := h i s' hs'
    exact wf.flow i s hs p (hsub.subset hp)
  token s' hs' := by
    obtain ⟨i, hi⟩ := List.getElem?_of_mem hs'
    obtain ⟨s, hs, hsub⟩ := h i s' hi
    exact (wf.token s (List.mem_of_getElem? hs)).sublist (hsub.map _)
  rounds := wf.rounds
  pos := wf.pos
  total := wf.total

theorem remove_eq_some {o o' : Outstanding} {flow token : UInt16} {p : PendingProbe}
    (h : o.remove flow token = some (p, o')) :
    ∃ s, o.shard? flow = some s ∧ s.find token = some p ∧
      o' = { o with shards := o.shards.modify flow.toNat (·.erase token) } := by
  unfold remove at h
  split at h
  · cases h
  · rename_i q hq
    obtain ⟨s, hs, hf⟩ := Option.bind_eq_some_iff.mp hq
    simp only [Option.some.injEq, Prod.mk.injEq] at h
    exact ⟨s, hs, h.1 ▸ hf, h.2.symm⟩

/-- What a successful removal takes. -/
theorem WF.remove_mem {o o' : Outstanding} (wf : o.WF) {flow token : UInt16} {p : PendingProbe}
    (h : o.remove flow token = some (p, o')) : p ∈ o.waiting ∧ p.flow = flow ∧ p.token = token := by
  obtain ⟨s, hs, hf, -⟩ := remove_eq_some h
  obtain ⟨hp, ht⟩ := Shard.find_eq_some hf
  exact ⟨mem_waiting.mpr ⟨_, s, hs, hp⟩, UInt16.toNat_inj.mp (wf.flow _ s hs p hp), ht⟩

theorem WF.claims_remove {o o' : Outstanding} (wf : o.WF) {flow token : UInt16} {p : PendingProbe}
    (h : o.remove flow token = some (p, o')) : Claims o [p] o' := by
  obtain ⟨s, hs, hf, rfl⟩ := remove_eq_some h
  obtain ⟨rest, h₁, h₂⟩ := flatten_modify_perm (Shard.erase · token) hs
  refine ⟨?_, rfl, List.length_modify .., fun _ => wf.of_sublist fun i s' hs' => ?_⟩
  · have hp := Shard.perm_erase_of_find (wf.token s (List.mem_of_getElem? hs)) hf
    exact h₁.trans ((hp.append_right rest).trans (h₂.symm.cons p))
  · obtain ⟨t, ht, ⟨-, rfl⟩ | rfl⟩ := getElem?_of_modify hs'
    · exact ⟨t, ht, List.filter_sublist⟩
    · exact ⟨s', ht, List.Sublist.refl _⟩

/-- What was removed no longer waits. -/
theorem WF.remove_gone {o o' : Outstanding} (wf : o.WF) {flow token : UInt16} {p : PendingProbe}
    (h : o.remove flow token = some (p, o')) {q : PendingProbe} (hq : q ∈ o'.waiting)
    (hf : q.flow = flow) : q.token ≠ token := by
  obtain ⟨s', hs', hqs⟩ := ((wf.claims_remove h).wf wf).shard_of_mem hq
  obtain ⟨s, hs, -, rfl⟩ := remove_eq_some h
  simp only [shard?] at hs hs'
  rw [hf, List.getElem?_modify_eq, hs] at hs'
  obtain rfl : Shard.erase s token = s' := by simpa using hs'
  simpa using (List.mem_filter.mp hqs).2

/-- A removal fails where no probe of the flow with the token waits. -/
theorem WF.remove_eq_none_iff {o : Outstanding} (wf : o.WF) {flow token : UInt16} :
    o.remove flow token = none ↔ ∀ p ∈ o.waiting, p.flow = flow → p.token ≠ token := by
  have hsplit : o.remove flow token = none ↔ (o.shard? flow).bind (·.find token) = none := by
    unfold remove; split <;> simp_all
  rw [hsplit, Option.bind_eq_none_iff]
  constructor
  · intro h p hp hf ht
    obtain ⟨s, hs, hps⟩ := wf.shard_of_mem hp
    exact Shard.find_eq_none.mp (h s (hf ▸ hs)) p hps ht
  · intro h s hs
    refine Shard.find_eq_none.mpr fun p hp => h p (mem_waiting.mpr ⟨_, s, hs, hp⟩) ?_
    exact UInt16.toNat_inj.mp (wf.flow _ s hs p hp)

/-- A waiting probe is found by its flow and its token. -/
theorem WF.exists_remove {o : Outstanding} (wf : o.WF) {p : PendingProbe} (h : p ∈ o.waiting) :
    ∃ o', o.remove p.flow p.token = some (p, o') := by
  have found : o.remove p.flow p.token ≠ none := fun none =>
    wf.remove_eq_none_iff.mp none p h rfl rfl
  obtain ⟨⟨q, o'⟩, removed⟩ := Option.ne_none_iff_exists'.mp found
  obtain ⟨hq, flow, token⟩ := wf.remove_mem removed
  obtain rfl := wf.eq_of_token hq h flow token
  exact ⟨o', removed⟩

theorem WF.contains_iff {o : Outstanding} (wf : o.WF) {flow token : UInt16} :
    o.contains flow token = true ↔ ∃ p ∈ o.waiting, p.flow = flow ∧ p.token = token := by
  unfold contains
  rw [Option.any_eq_true]
  constructor
  · rintro ⟨s, hs, hc⟩
    obtain ⟨p, hp, ht⟩ := Shard.contains_iff.mp hc
    exact ⟨p, mem_waiting.mpr ⟨_, s, hs, hp⟩, UInt16.toNat_inj.mp (wf.flow _ s hs p hp), ht⟩
  · rintro ⟨p, hp, rfl, ht⟩
    obtain ⟨s, hs, hps⟩ := wf.shard_of_mem hp
    exact ⟨s, hs, Shard.contains_iff.mpr ⟨p, hps, ht⟩⟩

/-- A registration is refused where the flow has no shard or has a waiting probe with the token. -/
theorem WF.insert?_eq_none_iff {o : Outstanding} (wf : o.WF) {p : PendingProbe} :
    o.insert? p = none ↔ o.shards.length ≤ p.flow.toNat ∨
      ∃ q ∈ o.waiting, q.flow = p.flow ∧ q.token = p.token := by
  unfold Outstanding.insert?
  cases hs : o.shard? p.flow with
  | none =>
    have outside : o.shards.length ≤ p.flow.toNat := List.getElem?_eq_none_iff.mp hs
    simp [outside]
  | some s =>
    have inside : p.flow.toNat < o.shards.length := (List.getElem?_eq_some_iff.mp hs).1
    have present : s.contains p.token = true ↔
        ∃ q ∈ o.waiting, q.flow = p.flow ∧ q.token = p.token := by
      rw [← wf.contains_iff, contains, hs, Option.any_some]
    rw [← present]
    simp only [ite_eq_left_iff, reduceCtorEq, imp_false, Bool.not_eq_true, Bool.not_eq_false]
    exact ⟨.inr, fun h => h.resolve_left (by omega)⟩

/-- A token is waiting on the flows of the waiting probes that have it. -/
theorem WF.mem_owners {o : Outstanding} (wf : o.WF) {flow token : UInt16} :
    flow ∈ o.owners token ↔ ∃ p ∈ o.waiting, p.flow = flow ∧ p.token = token := by
  rw [owners, List.mem_filter, wf.contains_iff]
  refine ⟨And.right, fun ⟨p, hp, hf, ht⟩ => ⟨?_, p, hp, hf, ht⟩⟩
  refine List.mem_map.mpr ⟨flow.toNat, List.mem_range.mpr ?_, UInt16.ofNat_toNat⟩
  exact hf ▸ wf.flow_lt hp

/-- A list without repetitions that has one member. -/
theorem eq_singleton_of_mem_iff {α : Type} {l : List α} {a : α} (hn : l.Nodup)
    (h : ∀ x, x ∈ l ↔ x = a) : l = [a] := by
  refine List.perm_singleton.mp ((List.perm_ext_iff_of_nodup hn (List.nodup_singleton a)).mpr ?_)
  intro x
  rw [h x, List.mem_singleton]

/-- Numbers of flows are distinct words. -/
theorem nodup_map_ofNat_range {n : Nat} (h : n ≤ 65536) :
    ((List.range n).map UInt16.ofNat).Nodup := by
  refine List.Nodup.map_on (fun i hi j hj hij => ?_) List.nodup_range
  have hi := List.mem_range.mp hi
  have hj := List.mem_range.mp hj
  have := congrArg UInt16.toNat hij
  simp only [UInt16.toNat_ofNat'] at this
  omega

theorem nodup_owners {o : Outstanding} (hl : o.shards.length ≤ 65536) (token : UInt16) :
    (o.owners token).Nodup := (nodup_map_ofNat_range hl).filter _

/-- What a successful removal by the token alone takes. -/
theorem WF.removeUnique_mem {o o' : Outstanding} (wf : o.WF) {token : UInt16} {p : PendingProbe}
    (h : o.removeUnique token = some (p, o')) :
    p ∈ o.waiting ∧ p.token = token ∧ Claims o [p] o' := by
  unfold removeUnique at h
  split at h
  · obtain ⟨hp, -, ht⟩ := wf.remove_mem h
    exact ⟨hp, ht, wf.claims_remove h⟩
  · cases h

/-- A removal by the token alone succeeds where exactly one waiting probe has the token. -/
theorem WF.removeUnique_isSome_iff {o : Outstanding} (wf : o.WF) (hl : o.shards.length ≤ 65536)
    {token : UInt16} :
    (o.removeUnique token).isSome = true ↔ ∃! p, p ∈ o.waiting ∧ p.token = token := by
  constructor
  · intro h
    obtain ⟨⟨p, o'⟩, hr⟩ := Option.isSome_iff_exists.mp h
    obtain ⟨hp, ht, -⟩ := wf.removeUnique_mem hr
    refine ⟨p, ⟨hp, ht⟩, fun q ⟨hq, hqt⟩ => ?_⟩
    unfold removeUnique at hr
    split at hr
    case h_2 => cases hr
    rename_i flow hown
    have only (x : PendingProbe) (hx : x ∈ o.waiting) (hxt : x.token = token) : x.flow = flow := by
      have : x.flow ∈ o.owners token := wf.mem_owners.mpr ⟨x, hx, rfl, hxt⟩
      simpa [hown] using this
    exact wf.eq_of_token hq hp ((only q hq hqt).trans (only p hp ht).symm) (hqt.trans ht.symm)
  · rintro ⟨p, ⟨hp, ht⟩, only⟩
    have single : o.owners token = [p.flow] := by
      refine eq_singleton_of_mem_iff (nodup_owners hl token) fun flow => ?_
      rw [wf.mem_owners]
      constructor
      · rintro ⟨q, hq, rfl, hqt⟩
        rw [only q ⟨hq, hqt⟩]
      · rintro rfl
        exact ⟨p, hp, rfl, ht⟩
    obtain ⟨o', removed⟩ := wf.exists_remove hp
    rw [ht] at removed
    simp only [removeUnique, single, removed, Option.isSome_some]

/-- The entries of a list of lists that pass a test, and the others. -/
theorem flatten_filter_perm {α : Type} (p : α → Bool) (l : List (List α)) :
    l.flatten.Perm (l.flatMap (List.filter p) ++ (l.map (List.filter (!p ·))).flatten) := by
  induction l with
  | nil => exact .refl _
  | cons s l ih =>
    simp only [List.flatten_cons, List.flatMap_cons, List.map_cons]
    refine ((List.filter_append_perm p s).symm.append ih).trans ?_
    simp only [List.append_assoc]
    refine List.Perm.append_left _ ?_
    rw [← List.append_assoc, ← List.append_assoc]
    exact List.perm_append_comm.append_right _

theorem claims_expire (o : Outstanding) (now : Instant) :
    Claims o (o.expire now).1 (o.expire now).2 := by
  refine ⟨flatten_filter_perm _ o.shards, rfl, List.length_map _, fun wf =>
    wf.of_sublist fun i s' hs' => ?_⟩
  simp only [List.getElem?_map] at hs'
  obtain ⟨s, hs, rfl⟩ := Option.map_eq_some_iff.mp hs'
  exact ⟨s, hs, List.filter_sublist⟩

theorem drainAll_waiting (o : Outstanding) : o.drainAll.2.waiting = [] := by
  simp [drainAll, waiting]

theorem claims_drainAll (o : Outstanding) : Claims o o.drainAll.1 o.drainAll.2 := by
  refine ⟨?_, rfl, List.length_map _, fun wf => wf.of_sublist fun i s' hs' => ?_⟩
  · rw [drainAll_waiting, List.append_nil]
    exact .refl _
  · simp only [List.getElem?_map] at hs'
    obtain ⟨s, hs, rfl⟩ := Option.map_eq_some_iff.mp hs'
    exact ⟨s, hs, List.nil_sublist s⟩

/-! ## Settling -/

theorem settleOne_shards (o : Outstanding) (r : UInt32) : (o.settleOne r).shards = o.shards := by
  unfold settleOne; split <;> rfl

theorem settle_shards (o : Outstanding) (rounds : List UInt32) :
    (o.settle rounds).shards = o.shards := by
  induction rounds generalizing o with
  | nil => rfl
  | cons r rounds ih => exact (ih (o.settleOne r)).trans (settleOne_shards o r)

/-- Settling changes no waiting probe. -/
theorem settle_waiting (o : Outstanding) (rounds : List UInt32) :
    (o.settle rounds).waiting = o.waiting := congrArg List.flatten (settle_shards o rounds)

theorem WF.settleOne {o : Outstanding} (wf : o.WF) (r : UInt32) : (o.settleOne r).WF := by
  unfold Outstanding.settleOne
  split
  · exact wf
  · rename_i l hl
    obtain ⟨hs, hp⟩ := decrement?_sublist hl
    refine ⟨wf.flow, wf.token, wf.rounds.sublist hs, hp wf.pos, ?_⟩
    have := totalCount_decrement? wf.pos hl
    have := wf.total
    show o.count - 1 = totalCount l
    omega

theorem WF.settle {o : Outstanding} (wf : o.WF) (rounds : List UInt32) : (o.settle rounds).WF := by
  induction rounds generalizing o with
  | nil => exact wf
  | cons r rounds ih => exact ih (wf.settleOne r)

theorem WF.settleOne_inRound {o : Outstanding} (wf : o.WF) (r r' : UInt32) :
    (o.settleOne r).inRound r' = o.inRound r' - if r = r' then 1 else 0 := by
  unfold Outstanding.settleOne
  split
  · rename_i h
    by_cases hr : r = r'
    · subst hr
      simp [inRound, decrement?_eq_none h]
    · simp [hr]
  · rename_i l hl
    exact lookup_decrement? wf.rounds hl r'

theorem settle_count_le (o : Outstanding) (rounds : List UInt32) :
    (o.settle rounds).count ≤ o.count := by
  induction rounds generalizing o with
  | nil => exact Nat.le_refl _
  | cons r rounds ih =>
    refine (ih (o.settleOne r)).trans ?_
    unfold settleOne
    split
    · exact Nat.le_refl _
    · exact Nat.sub_le ..

/-- Settling takes one from the count of a round for each time that the round is named. -/
theorem WF.settle_inRound {o : Outstanding} (wf : o.WF) (rounds : List UInt32) (r : UInt32) :
    (o.settle rounds).inRound r = o.inRound r - rounds.count r := by
  induction rounds generalizing o with
  | nil => rfl
  | cons q rounds ih =>
    have step := ih (wf.settleOne q)
    rw [wf.settleOne_inRound] at step
    rw [show o.settle (q :: rounds) = (o.settleOne q).settle rounds from rfl, step,
      List.count_cons]
    simp only [beq_iff_eq]
    omega

end Outstanding

end FlowTrace
