import FlowTrace.Report
import Mathlib.Algebra.GroupWithZero.Nat
import Mathlib.Data.List.Induction
import Mathlib.Data.List.Nodup

/-!
# What a hop record says of its answers

- **Times** (`Rtt.Spans`): statistics have the number of some times, and their least and greatest
  one (`Rtt.spans_ofTimes`).
- **Responders** (`HopRecord.entries`): one entry for each address that answered, in order of the
  first answers, made of the answers of this address alone. One more answer keeps it so
  (`answerBy_entries`).
- **Operations** (`HopRecord.Follows`): a record follows from the answers and the evidence among the
  operations; each operation keeps it so (`Follows.perform`).
- **Main result** (`HopRecord.describes_after`): after any operations on a new record its counts,
  its responders, its primary responder, its extremes and its evidence of a NAT agree with each
  other and with the operations.
-/

namespace FlowTrace

/-! ## Round-trip times -/

namespace Rtt

/-- The statistics of some times, one after the other. -/
def ofTimes (times : List Duration) : Rtt := times.foldl record .empty

/-- The number of some times, the least and the greatest of them. -/
structure Spans (s : Rtt) (times : List Duration) : Prop where
  count : s.count = times.length
  min : s.min.map (·.nanos) = (times.map (·.nanos)).min?
  max : s.max.map (·.nanos) = (times.map (·.nanos)).max?

theorem min?_concat (l : List Nat) (n : Nat) :
    (l ++ [n]).min? = some (l.min?.elim n fun m => if m ≤ n then m else n) := by
  cases l with
  | nil => rfl
  | cons m l =>
    rw [List.cons_append, List.min?_cons', List.min?_cons', List.foldl_append, Option.elim_some]
    exact congrArg some (Nat.min_def ..)

theorem max?_concat (l : List Nat) (n : Nat) :
    (l ++ [n]).max? = some (l.max?.elim n fun m => if m ≤ n then n else m) := by
  cases l with
  | nil => rfl
  | cons m l =>
    rw [List.cons_append, List.max?_cons', List.max?_cons', List.foldl_append, Option.elim_some]
    exact congrArg some (Nat.max_def ..)

theorem Spans.record {s : Rtt} {times : List Duration} (h : s.Spans times) (rtt : Duration) :
    (s.record rtt).Spans (times ++ [rtt]) where
  count := by rw [count_record, h.count, List.length_append, List.length_singleton]
  min := by
    rw [List.map_append, List.map_singleton, min?_concat, ← h.min, Rtt.record]
    cases s.min with
    | none => rfl
    | some m =>
      simp only [Option.elim_some, Option.map_some, Duration.min]
      split <;> rfl
  max := by
    rw [List.map_append, List.map_singleton, max?_concat, ← h.max, Rtt.record]
    cases s.max with
    | none => rfl
    | some m =>
      simp only [Option.elim_some, Option.map_some, Duration.max]
      split <;> rfl

theorem spans_ofTimes (times : List Duration) : (ofTimes times).Spans times := by
  induction times using List.reverseRecOn with
  | nil => exact ⟨rfl, rfl, rfl⟩
  | append_singleton times rtt ih =>
    rw [ofTimes, List.foldl_concat]
    exact ih.record rtt

/-- The first statistics lie within the second ones. -/
def Within (part whole : Rtt) : Prop :=
  ∃ least low high greatest, whole.min = some least ∧ part.min = some low ∧
    part.max = some high ∧ whole.max = some greatest ∧ least.nanos ≤ low.nanos ∧
    low.nanos ≤ high.nanos ∧ high.nanos ≤ greatest.nanos

/-- Where there is a time, there are a least and a greatest one. -/
theorem Spans.exists_extremes {s : Rtt} {times : List Duration} (h : s.Spans times)
    (some_ : times ≠ []) : ∃ low high, s.min = some low ∧ s.max = some high ∧
      (low.nanos ∈ times.map (·.nanos) ∧ ∀ n ∈ times.map (·.nanos), low.nanos ≤ n) ∧
      (high.nanos ∈ times.map (·.nanos) ∧ ∀ n ∈ times.map (·.nanos), n ≤ high.nanos) := by
  have filled : times.map (·.nanos) ≠ [] := mt List.map_eq_nil_iff.mp some_
  have least := h.min
  have greatest := h.max
  cases hmin : s.min with
  | none => exact absurd (List.min?_eq_none_iff.mp (least.symm.trans (by rw [hmin]; rfl))) filled
  | some low =>
    cases hmax : s.max with
    | none =>
      exact absurd (List.max?_eq_none_iff.mp (greatest.symm.trans (by rw [hmax]; rfl))) filled
    | some high =>
      rw [hmin] at least
      rw [hmax] at greatest
      exact ⟨low, high, rfl, rfl, List.min?_eq_some_iff.mp least.symm,
        List.max?_eq_some_iff.mp greatest.symm⟩

/-- Statistics of some of the times lie within those of all. -/
theorem Spans.within {part whole : Rtt} {times all : List Duration} (hp : part.Spans times)
    (hw : whole.Spans all) (sub : times ⊆ all) (some_ : times ≠ []) : part.Within whole := by
  obtain ⟨low, high, hlow, hhigh, ⟨low_mem, low_le⟩, high_mem, -⟩ := hp.exists_extremes some_
  obtain ⟨least, greatest, hleast, hgreatest, ⟨-, least_le⟩, -, le_greatest⟩ :=
    hw.exists_extremes fun none => some_ (List.subset_nil.mp (none ▸ sub))
  have into := List.map_subset (fun d : Duration => d.nanos) sub
  exact ⟨least, low, high, greatest, hleast, hlow, hhigh, hgreatest, least_le _ (into low_mem),
    low_le _ high_mem, le_greatest _ (into high_mem)⟩

end Rtt

/-! ## Responders -/

/-- The choice is an entry that answered most often. -/
theorem mostSeen_eq_some {l : List ResponderStats} {best : ResponderStats}
    (h : mostSeen l = some best) : best ∈ l ∧ ∀ s ∈ l, s.received ≤ best.received := by
  induction l generalizing best with
  | nil => cases h
  | cons s rest ih =>
    rw [mostSeen] at h
    cases hrest : mostSeen rest with
    | none =>
      obtain rfl : s = best := by simpa [hrest] using h
      have empty : rest = [] := by
        cases rest with
        | nil => rfl
        | cons t rest =>
          rw [mostSeen] at hrest
          split at hrest
          · cases hrest
          · split at hrest <;> cases hrest
      simp [empty]
    | some most =>
      obtain ⟨mem, le⟩ := ih hrest
      simp only [hrest] at h
      -- Of two that answered equally often the later one stays the choice.
      split at h <;> rename_i more <;> obtain rfl := Option.some.inj h
      · refine ⟨List.mem_cons_self, fun t ht => ?_⟩
        rcases List.mem_cons.mp ht with rfl | ht
        · exact Nat.le_refl _
        · exact Nat.le_trans (le t ht) (Nat.le_of_lt more)
      · refine ⟨List.mem_cons_of_mem _ mem, fun t ht => ?_⟩
        rcases List.mem_cons.mp ht with rfl | ht
        · exact Nat.le_of_not_lt more
        · exact le t ht

theorem mostSeen_eq_none_iff {l : List ResponderStats} : mostSeen l = none ↔ l = [] := by
  cases l with
  | nil => exact ⟨fun _ => rfl, fun _ => rfl⟩
  | cons s rest =>
    rw [mostSeen]
    cases mostSeen rest with
    | none => simp
    | some best =>
      dsimp only
      split <;> simp

namespace HopRecord

/-- An answer as a record is told of it. -/
structure Reply where
  addr : Address
  rtt : Duration
  kind : ResponseKind
  round : UInt32

/-- The entry of a responder after some answers. -/
def entry (replies : List Reply) (addr : Address) : ResponderStats :=
  let own := replies.filter (·.addr = addr)
  { addr := addr
    received := own.length
    firstRound := (own.head?.map (·.round)).getD 0
    rtt := .ofTimes (own.map (·.rtt)) }

/-- The entries of all responders after some answers, in order of their first answers. -/
def entries (replies : List Reply) : List ResponderStats :=
  (replies.map (·.addr)).eraseDups.map (entry replies)

theorem eraseDups_concat (l : List Address) (a : Address) :
    (l ++ [a]).eraseDups = l.eraseDups ++ if a ∈ l then [] else [a] := by
  rw [List.eraseDups_append]
  by_cases h : a ∈ l <;> simp [List.removeAll, h, List.eraseDups_cons]

theorem nodup_eraseDups (l : List Address) : l.eraseDups.Nodup := by
  induction l using List.reverseRecOn with
  | nil => exact List.nodup_nil
  | append_singleton l a ih =>
    rw [eraseDups_concat]
    split
    · simpa using ih
    · rename_i new
      refine List.nodup_append.mpr ⟨ih, List.nodup_singleton a, fun b hb c hc => ?_⟩
      rw [List.mem_singleton.mp hc]
      exact fun hsame => new (hsame ▸ List.mem_eraseDups.mp hb)

/-- One more answer changes the entry of its responder, or opens one at the end. -/
theorem answerBy_map (addr : Address) (rtt : Duration) (round : UInt32)
    {f : Address → ResponderStats} (named : ∀ a, (f a).addr = a) {as : List Address}
    (distinct : as.Nodup) : answerBy addr rtt round (as.map f) =
      (as.map fun a => if a = addr then (f a).answer rtt else f a) ++
        if addr ∈ as then [] else [ResponderStats.answer ⟨addr, 0, round, .empty⟩ rtt] := by
  induction as with
  | nil => rfl
  | cons a as ih =>
    obtain ⟨new, distinct⟩ := List.nodup_cons.mp distinct
    rw [List.map_cons, answerBy, named]
    by_cases here : a = addr
    · have others : (as.map fun b => if b = addr then (f b).answer rtt else f b) = as.map f :=
        List.map_congr_left fun b hb => if_neg fun (hsame : b = addr) =>
          new (here.trans hsame.symm ▸ hb)
      simp [here, others]
    · simp [here, ih distinct, Ne.symm here]

/-- One more answer makes the entries those of one more answer. -/
theorem answerBy_entries (replies : List Reply) (r : Reply) :
    answerBy r.addr r.rtt r.round (entries replies) = entries (replies ++ [r]) := by
  have known {a : Address} (h : a ∈ (replies.map (·.addr)).eraseDups) :
      (if a = r.addr then (entry replies a).answer r.rtt else entry replies a) =
        entry (replies ++ [r]) a := by
    obtain ⟨first, hfirst, rfl⟩ := List.mem_map.mp (List.mem_eraseDups.mp h)
    have own : replies.filter (·.addr = first.addr) ≠ [] :=
      List.ne_nil_of_mem (List.mem_filter.mpr ⟨hfirst, decide_eq_true rfl⟩)
    by_cases hsame : first.addr = r.addr
    · rw [if_pos hsame]
      simp only [entry, ResponderStats.answer, List.filter_append, hsame, decide_true,
        List.filter_cons_of_pos, List.filter_nil, List.length_append, List.length_singleton,
        List.map_append, List.map_singleton, Rtt.ofTimes, List.foldl_concat,
        List.head?_append_of_ne_nil _ (hsame ▸ own)]
    · simp [entry, List.filter_append, Ne.symm hsame, hsame]
  have opened (h : r.addr ∉ replies.map (·.addr)) :
      ResponderStats.answer ⟨r.addr, 0, r.round, .empty⟩ r.rtt =
        entry (replies ++ [r]) r.addr := by
    have none : replies.filter (·.addr = r.addr) = [] :=
      List.filter_eq_nil_iff.mpr fun x hx hsame =>
        h (List.mem_map.mpr ⟨x, hx, of_decide_eq_true hsame⟩)
    simp [entry, List.filter_append, none, ResponderStats.answer, Rtt.ofTimes]
  rw [entries, answerBy_map _ _ _ (fun _ => rfl) (nodup_eraseDups _), entries, List.map_append,
    List.map_singleton, eraseDups_concat, List.map_append,
    List.map_congr_left fun a h => known h]
  simp only [List.mem_eraseDups]
  by_cases h : r.addr ∈ replies.map (·.addr)
  · rw [if_pos h, if_pos h, List.map_nil]
  · rw [if_neg h, if_neg h, List.map_singleton, opened h]

/-- Each answer is one of one responder. -/
theorem sum_received_answerBy (addr : Address) (rtt : Duration) (round : UInt32)
    (l : List ResponderStats) : ((answerBy addr rtt round l).map (·.received)).sum =
      (l.map (·.received)).sum + 1 := by
  induction l with
  | nil => rfl
  | cons s rest ih =>
    rw [answerBy]
    split
    · simp only [List.map_cons, List.sum_cons, ResponderStats.answer]
      omega
    · rw [List.map_cons, List.map_cons, List.sum_cons, List.sum_cons, ih]
      omega

theorem sum_received_entries (replies : List Reply) :
    ((entries replies).map (·.received)).sum = replies.length := by
  induction replies using List.reverseRecOn with
  | nil => rfl
  | append_singleton replies r ih =>
    rw [← answerBy_entries, sum_received_answerBy, ih, List.length_append, List.length_singleton]

/-- What an entry says agrees with the answers of its responder. -/
structure Told (s : ResponderStats) (replies : List Reply) : Prop where
  /-- It was opened by the first of them. -/
  first : (replies.find? (·.addr = s.addr)).map (·.round) = some s.firstRound
  received : s.received = (replies.filter (·.addr = s.addr)).length
  rtt : s.rtt.Spans ((replies.filter (·.addr = s.addr)).map (·.rtt))

theorem told_of_mem_entries {replies : List Reply} {s : ResponderStats} (h : s ∈ entries replies) :
    Told s replies ∧ replies.filter (·.addr = s.addr) ≠ [] := by
  obtain ⟨a, ha, rfl⟩ := List.mem_map.mp h
  obtain ⟨r, hr, rfl⟩ := List.mem_map.mp (List.mem_eraseDups.mp ha)
  have own : replies.filter (·.addr = r.addr) ≠ [] :=
    List.ne_nil_of_mem (List.mem_filter.mpr ⟨hr, decide_eq_true rfl⟩)
  refine ⟨⟨?_, rfl, Rtt.spans_ofTimes _⟩, own⟩
  obtain ⟨first, rest, split⟩ := List.exists_cons_of_ne_nil own
  rw [← List.head?_filter]
  simp only [entry, split, List.head?_cons, Option.map_some, Option.getD_some]

/-! ## Operations -/

/-- What may be done to a record. -/
inductive Operation where
  | sent
  | answer (reply : Reply)
  | timeout
  | nat (change : FieldChange)
  | mpls (labels : List Packet.MplsLabel)

namespace Operation

/-- The record after an operation. -/
def perform : Operation → HopRecord → HopRecord
  | sent, h => h.recordSent
  | answer r, h => h.recordAnswer r.addr r.rtt r.kind r.round
  | timeout, h => h.recordTimeout
  | nat change, h => h.markNat change
  | mpls labels, h => h.setMpls labels

def reply? : Operation → Option Reply
  | answer r => some r
  | _ => none

def change? : Operation → Option FieldChange
  | nat change => some change
  | _ => none

end Operation

/-- The answers among some operations. -/
def replies (ops : List Operation) : List Reply := ops.filterMap Operation.reply?

/-- The evidence of a NAT among some operations. -/
def changes (ops : List Operation) : List FieldChange := ops.filterMap Operation.change?

/-- A new record after some operations. -/
def after (ttl : UInt8) (ops : List Operation) : HopRecord :=
  ops.foldl (fun h op => op.perform h) (new ttl)

theorem after_concat (ttl : UInt8) (ops : List Operation) (op : Operation) :
    after ttl (ops ++ [op]) = op.perform (after ttl ops) := List.foldl_concat ..

/-- What a record says of its answers follows from some operations. -/
structure Follows (h : HopRecord) (ops : List Operation) : Prop where
  received : h.received = (replies ops).length
  rtt : h.rtt = .ofTimes ((replies ops).map (·.rtt))
  responders : h.responders = entries (replies ops)
  primary : h.primary = (mostSeen h.responders).map (·.addr)
  natReason : h.natReason = (changes ops).head?
  natDetected : h.natDetected = h.natReason.isSome

theorem follows_new (ttl : UInt8) : (new ttl).Follows [] := ⟨rfl, rfl, rfl, rfl, rfl, rfl⟩

/-- An operation that is neither an answer nor evidence changes nothing of all this. -/
theorem Follows.of_quiet {h h' : HopRecord} {ops : List Operation} {op : Operation}
    (f : h.Follows ops) (noReply : op.reply? = none) (noChange : op.change? = none)
    (received : h'.received = h.received) (rtt : h'.rtt = h.rtt)
    (responders : h'.responders = h.responders) (primary : h'.primary = h.primary)
    (natReason : h'.natReason = h.natReason) (natDetected : h'.natDetected = h.natDetected) :
    h'.Follows (ops ++ [op]) := by
  have sameReplies : replies (ops ++ [op]) = replies ops := by simp [replies, noReply]
  have sameChanges : changes (ops ++ [op]) = changes ops := by simp [changes, noChange]
  refine ⟨?_, ?_, ?_, ?_, ?_, ?_⟩
  · rw [received, f.received, sameReplies]
  · rw [rtt, f.rtt, sameReplies]
  · rw [responders, f.responders, sameReplies]
  · rw [primary, f.primary, responders]
  · rw [natReason, f.natReason, sameChanges]
  · rw [natDetected, f.natDetected, natReason]

theorem Follows.recordAnswer {h : HopRecord} {ops : List Operation} (f : h.Follows ops)
    (r : Reply) : (h.recordAnswer r.addr r.rtt r.kind r.round).Follows (ops ++ [.answer r]) := by
  have more : replies (ops ++ [.answer r]) = replies ops ++ [r] := by
    simp [replies, Operation.reply?]
  have hsame : changes (ops ++ [.answer r]) = changes ops := by simp [changes, Operation.change?]
  refine ⟨?_, ?_, ?_, rfl, ?_, f.natDetected⟩
  · rw [more, List.length_append, List.length_singleton, ← f.received]
    rfl
  · rw [more, List.map_append, List.map_singleton, Rtt.ofTimes, List.foldl_concat]
    exact congrArg (Rtt.record · r.rtt) f.rtt
  · rw [more, ← answerBy_entries, ← f.responders]
    rfl
  · rw [hsame, ← f.natReason]
    rfl

theorem Follows.markNat {h : HopRecord} {ops : List Operation} (f : h.Follows ops)
    (change : FieldChange) : (h.markNat change).Follows (ops ++ [.nat change]) := by
  have hsame : replies (ops ++ [.nat change]) = replies ops := by simp [replies, Operation.reply?]
  have more : changes (ops ++ [.nat change]) = changes ops ++ [change] := by
    simp [changes, Operation.change?]
  have evidence := f.natDetected
  have reason := f.natReason
  unfold HopRecord.markNat
  split
  · rename_i detected
    refine ⟨hsame ▸ f.received, hsame ▸ f.rtt, hsame ▸ f.responders, f.primary, ?_, evidence⟩
    rw [detected, reason] at evidence
    obtain ⟨first, hfirst⟩ := Option.isSome_iff_exists.mp evidence.symm
    rw [reason, more, List.head?_append, hfirst, Option.some_or]
  · rename_i undetected
    refine ⟨hsame ▸ f.received, hsame ▸ f.rtt, hsame ▸ f.responders, f.primary, ?_, rfl⟩
    rw [Bool.not_eq_true] at undetected
    rw [undetected, reason] at evidence
    have none : (changes ops).head? = none :=
      Option.isNone_iff_eq_none.mp (Option.isSome_eq_false_iff.mp evidence.symm)
    rw [more, List.head?_append, none]
    rfl

theorem Follows.perform {h : HopRecord} {ops : List Operation} (f : h.Follows ops)
    (op : Operation) : (op.perform h).Follows (ops ++ [op]) := by
  cases op with
  | answer r => exact f.recordAnswer r
  | nat change => exact f.markNat change
  | sent | timeout | mpls => exact f.of_quiet rfl rfl rfl rfl rfl rfl rfl rfl

theorem follows_after (ttl : UInt8) (ops : List Operation) : (after ttl ops).Follows ops := by
  induction ops using List.reverseRecOn with
  | nil => exact follows_new ttl
  | append_singleton ops op ih =>
    rw [after_concat]
    exact ih.perform op

section Follows

variable {h : HopRecord} {ops : List Operation} (f : h.Follows ops)

include f

theorem Follows.told {s : ResponderStats} (hs : s ∈ h.responders) :
    Told s (replies ops) ∧ (replies ops).filter (·.addr = s.addr) ≠ [] :=
  told_of_mem_entries (f.responders ▸ hs)

theorem Follows.addresses : h.addresses = ((replies ops).map (·.addr)).eraseDups := by
  rw [HopRecord.addresses, f.responders, entries, List.map_map]
  exact List.map_id _

theorem Follows.spans : h.rtt.Spans ((replies ops).map (·.rtt)) := f.rtt ▸ Rtt.spans_ofTimes _

theorem Follows.sum_received : (h.responders.map (·.received)).sum = h.received := by
  rw [f.responders, sum_received_entries, f.received]

theorem Follows.sum_count : (h.responders.map (·.rtt.count)).sum = h.received := by
  have hsame : h.responders.map (·.rtt.count) = h.responders.map (·.received) :=
    List.map_congr_left fun s hs => by
      rw [(f.told hs).1.rtt.count, (f.told hs).1.received, List.length_map]
  rw [hsame, f.sum_received]

/-- The times of a responder lie within those of the hop. -/
theorem Follows.within {s : ResponderStats} (hs : s ∈ h.responders) : s.rtt.Within h.rtt := by
  obtain ⟨⟨-, -, own⟩, some_⟩ := f.told hs
  exact own.within f.spans (List.map_subset _ fun _ hr => List.mem_of_mem_filter hr)
    (mt List.map_eq_nil_iff.mp some_)

/-- Where there are answers, one responder is the primary one. -/
theorem Follows.primary_eq_none_iff : h.primary = none ↔ h.received = 0 := by
  rw [f.primary, Option.map_eq_none_iff, mostSeen_eq_none_iff]
  refine ⟨fun none => ?_, fun zero => ?_⟩
  · rw [← f.sum_received, none]
    rfl
  · have none : replies ops = [] := List.length_eq_zero_iff.mp (f.received.symm.trans zero)
    rw [f.responders, none]
    rfl

/-- So a report is not left without a name. -/
theorem Follows.hostCell (labels : LabelCache) : Report.hostCell labels h =
    h.primary.elim "* * *" fun a => Report.addressCell (labels.get a) a := by
  rw [Report.hostCell]
  cases hp : h.primary with
  | none => exact if_pos (f.primary_eq_none_iff.mp hp)
  | some a => rfl

end Follows

/-- All that a record says of its answers is true of some operations, and of each other. -/
structure Describes (h : HopRecord) (ops : List Operation) : Prop where
  /-- The responders stand in order of their first answers. -/
  addresses : h.addresses = ((replies ops).map (·.addr)).eraseDups
  distinct : h.addresses.Nodup
  told : ∀ s ∈ h.responders, Told s (replies ops)
  received : h.received = (replies ops).length
  rtt : h.rtt.Spans ((replies ops).map (·.rtt))
  /-- Each answer counts once, for the hop and for one responder. -/
  counts : h.rtt.count = h.received ∧ (h.responders.map (·.received)).sum = h.received ∧
    (h.responders.map (·.rtt.count)).sum = h.received
  /-- The times of a responder are among those of the hop. -/
  within : ∀ s ∈ h.responders, s.rtt.Within h.rtt
  primary_eq_none_iff : h.primary = none ↔ h.received = 0
  /-- The primary responder answered most often. -/
  primary : ∀ a ∈ h.primary, ∃ s ∈ h.responders, s.addr = a ∧
    ∀ t ∈ h.responders, t.received ≤ s.received
  /-- A report knows the name of a hop, or that there was no answer. -/
  hostCell : ∀ labels, Report.hostCell labels h =
    h.primary.elim "* * *" fun a => Report.addressCell (labels.get a) a
  natDetected_iff : h.natDetected = true ↔ h.natReason.isSome
  /-- The first evidence is kept. -/
  natReason : h.natReason = (changes ops).head?

/-- Whatever is done to a new record, what it says of its answers is true. -/
theorem describes_after (ttl : UInt8) (ops : List Operation) : (after ttl ops).Describes ops := by
  have f := follows_after ttl ops
  refine ⟨f.addresses, f.addresses ▸ nodup_eraseDups _, fun s hs => (f.told hs).1, f.received,
    f.spans, ⟨?_, f.sum_received, f.sum_count⟩, fun s hs => f.within hs, f.primary_eq_none_iff,
    fun a ha => ?_, f.hostCell, ?_, f.natReason⟩
  · rw [f.spans.count, List.length_map, f.received]
  · rw [f.primary] at ha
    obtain ⟨s, hs, rfl⟩ := Option.map_eq_some_iff.mp ha
    obtain ⟨mem, most⟩ := mostSeen_eq_some hs
    exact ⟨s, mem, rfl, most⟩
  · rw [f.natDetected]

end HopRecord

end FlowTrace
