import FlowTrace.Proofs.Session.Round

/-!
# The order of the probes in a round

A round goes through the flows pass by pass, with one more hop limit in each pass. How far a flow
goes is not known beforehand, because the target may be found while the round is sent.

- **Itineraries** (`itinerary`): the probes of a round, given the last hop limit of each flow. Each
  flow is probed with all hop limits from one up to its last one (`hopLimits_passes`).
- **Sweeps** (`Sweep.InPass`): a sweep in a pass. The flows that are behind have been probed with
  the hop limit of the pass or have come to their end, and the others are still to be visited.
- **Visits** (`InPass.skip`, `InPass.step`, `InPass.turn`): what a visit does to a pass. A probe
  comes last in the itinerary up to now (`InPass.passes_advance`).
- **Prefixes** (`InPass.isPrefix`): what is probed up to now begins every itinerary that goes on
  from there.
-/

namespace FlowTrace

/-- The flows of a configuration in order. -/
def Config.flowNumbers (c : Config) : List UInt16 := (List.range c.flows.toNat).map UInt16.ofNat

theorem Config.mem_flowNumbers {c : Config} {f : UInt16} :
    f ∈ c.flowNumbers ↔ f.toNat < c.flows.toNat := by
  constructor
  · intro h
    obtain ⟨i, hi, rfl⟩ := List.mem_map.mp h
    have := List.mem_range.mp hi
    have := c.flows.toNat_lt
    rw [UInt16.toNat_ofNat']
    omega
  · exact fun h => List.mem_map.mpr ⟨f.toNat, List.mem_range.mpr h, UInt16.ofNat_toNat⟩

theorem Config.length_flowNumbers (c : Config) : c.flowNumbers.length = c.flows.toNat := by
  rw [flowNumbers, List.length_map, List.length_range]

theorem Config.nodup_flowNumbers (c : Config) : c.flowNumbers.Nodup :=
  Outstanding.nodup_map_ofNat_range c.flows.toNat_lt.le

namespace Session

theorem Scheduler.flowNumbers_ofConfig (c : Config) (src : Address) :
    flowNumbers (.ofConfig c src) = c.flowNumbers := by
  have size : (Setup.ofConfig c src).encoder.plan.size = c.flows := FlowPlan.size_ofConfig c
  rw [flowNumbers, size, Config.flowNumbers]

/-! ## Itineraries -/

/-- One pass of a round: every flow that goes beyond `i` hops is probed with the next hop limit. -/
def pass (round : UInt32) (last : UInt16 → Nat) (flows : List UInt16) (i : Nat) : List ProbeKey :=
  (flows.filter (i < last ·)).map fun flow => ⟨flow, round, UInt8.ofNat (i + 1)⟩

/-- The first `n` passes of a round. -/
def passes (round : UInt32) (last : UInt16 → Nat) (flows : List UInt16) (n : Nat) : List ProbeKey :=
  (List.range n).flatMap (pass round last flows)

/-- The probes of a round in which each flow goes up to its last hop limit. -/
def itinerary (c : Config) (round : UInt32) (last : UInt16 → Nat) : List ProbeKey :=
  passes round last c.flowNumbers c.maxTtl.toNat

section Passes

variable {round : UInt32} {last last' : UInt16 → Nat} {flows : List UInt16} {i n n' : Nat}

theorem pass_append (flows more : List UInt16) (i : Nat) :
    pass round last (flows ++ more) i = pass round last flows i ++ pass round last more i := by
  simp [pass]

theorem pass_eq_nil (h : ∀ f ∈ flows, last f ≤ i) : pass round last flows i = [] := by
  have none : flows.filter (i < last ·) = [] :=
    List.filter_eq_nil_iff.mpr fun f hf => by simpa using h f hf
  rw [pass, none, List.map_nil]

theorem pass_congr (h : ∀ f ∈ flows, (i < last f ↔ i < last' f)) :
    pass round last flows i = pass round last' flows i := by
  have hsame : flows.filter (i < last ·) = flows.filter (i < last' ·) :=
    List.filter_congr fun f hf => by simp only [h f hf]
  rw [pass, hsame, pass]

theorem passes_succ (n : Nat) :
    passes round last flows (n + 1) = passes round last flows n ++ pass round last flows n := by
  rw [passes, List.range_succ, List.flatMap_append, List.flatMap_singleton, passes]

theorem passes_congr (h : ∀ f ∈ flows, ∀ i < n, (i < last f ↔ i < last' f)) :
    passes round last flows n = passes round last' flows n := by
  induction n with
  | zero => rfl
  | succ n ih =>
    rw [passes_succ, passes_succ, ih fun f hf i hi => h f hf i (Nat.lt_succ_of_lt hi),
      pass_congr fun f hf => h f hf n (Nat.lt_succ_self n)]

/-- Once all flows have come to their ends, passes are empty. -/
theorem passes_of_le (h : ∀ f ∈ flows, last f ≤ n) (more : n ≤ n') :
    passes round last flows n' = passes round last flows n := by
  induction more with
  | refl => rfl
  | step more ih =>
    rw [passes_succ, ih, pass_eq_nil fun f hf => (h f hf).trans more, List.append_nil]

theorem prefix_passes (more : n ≤ n') :
    passes round last flows n <+: passes round last flows n' := by
  induction more with
  | refl => exact List.prefix_refl _
  | step more ih =>
    rw [passes_succ]
    exact ih.trans (List.prefix_append ..)

theorem length_passes_le (round : UInt32) (last : UInt16 → Nat) (flows : List UInt16) (n : Nat) :
    (passes round last flows n).length ≤ n * flows.length := by
  induction n with
  | zero => exact Nat.zero_le _
  | succ n ih =>
    have one : (pass round last flows n).length ≤ flows.length := by
      rw [pass, List.length_map]
      exact List.length_filter_le ..
    rw [passes_succ, List.length_append, Nat.succ_mul]
    omega

/-- A pass probes a flow once, if it goes so far. -/
theorem filter_pass {flow : UInt16} (nodup : flows.Nodup) (hf : flow ∈ flows) :
    (pass round last flows n).filter (·.flow = flow) =
      if n < last flow then [⟨flow, round, UInt8.ofNat (n + 1)⟩] else [] := by
  rw [pass, List.filter_map, List.filter_filter]
  split
  · rename_i more
    rw [Outstanding.eq_singleton_of_mem_iff (a := flow) (nodup.filter _) fun f => ?_]
    · rfl
    · simp only [List.mem_filter, Function.comp_apply, Bool.and_eq_true, decide_eq_true_eq]
      constructor
      · exact fun h => h.2.1
      · rintro rfl
        exact ⟨hf, rfl, more⟩
  · rename_i ended
    rw [List.filter_eq_nil_iff.mpr fun f _ => ?_]
    · rfl
    · simp only [Function.comp_apply, Bool.and_eq_true, decide_eq_true_eq]
      rintro ⟨rfl, more⟩
      exact ended more

/-- A flow is probed with the hop limits from one up to its last one, each once and in order. -/
theorem hopLimits_passes {flow : UInt16} (nodup : flows.Nodup) (hf : flow ∈ flows) (hn : n ≤ 255) :
    ((passes round last flows n).filter (·.flow = flow)).map (·.ttl.toNat) =
      List.range' 1 (min (last flow) n) := by
  induction n with
  | zero => simp [passes]
  | succ n ih =>
    rw [passes_succ, List.filter_append, List.map_append, ih (by omega), filter_pass nodup hf]
    split
    · rename_i more
      have ttl : (UInt8.ofNat (n + 1)).toNat = 1 + 1 * n := by rw [UInt8.toNat_ofNat']; omega
      rw [Nat.min_eq_right more.le, Nat.min_eq_right more, List.range'_concat, ← ttl]
      rfl
    · rename_i ended
      rw [Nat.min_eq_left (Nat.le_of_not_lt ended),
        Nat.min_eq_left (Nat.le_succ_of_le (Nat.le_of_not_lt ended))]
      exact List.append_nil _

end Passes

/-! ## Sweeps -/

/-- The hop limits of a flow that a sweep has gone past. -/
def Sweep.taken (s : Sweep) (flow : UInt16) : Nat := s.next.getD flow.toNat 1 - 1

/-- The sweep after the visit of a flow that is probed. -/
def Sweep.advance (s : Sweep) (flow : UInt16) (queue : List UInt16) : Sweep :=
  let ttl := s.next.getD flow.toNat 1
  { s with queue := queue, active := true, next := s.next.set flow.toNat (ttl + 1) }

/-- A sweep in pass `i`, with the largest hop limit that each flow is worth probing with. The flows
in `done` have been visited in this pass. -/
structure Sweep.InPass (c : Config) (limit : UInt16 → Nat) (s : Sweep) (i : Nat)
    (done : List UInt16) : Prop where
  length : s.next.length = c.flows.toNat
  pos : ∀ n ∈ s.next, 0 < n
  split : c.flowNumbers = done ++ s.queue
  /-- A flow has been probed in this pass, or there is nothing more to probe. -/
  visited : ∀ f ∈ done, s.taken f = i + 1 ∨ (s.taken f ≤ i ∧ limit f ≤ s.taken f)
  /-- A flow has been probed in all passes before, or there is nothing more to probe. -/
  queued : ∀ f ∈ s.queue, s.taken f = i ∨ (s.taken f ≤ i ∧ limit f ≤ s.taken f)
  idle : s.active = false → ∀ f ∈ done, s.taken f ≤ i

namespace Sweep.InPass

variable {c : Config} {src : Address} {limit : UInt16 → Nat} {s : Sweep} {i n : Nat}
  {done queue : List UInt16} {flow : UInt16}

theorem next_eq (h : s.InPass c limit i done) (hf : flow.toNat < c.flows.toNat) :
    s.next.getD flow.toNat 1 = s.taken flow + 1 := by
  have inside : flow.toNat < s.next.length := h.length ▸ hf
  have hpos : 0 < s.next.getD flow.toNat 1 := by
    rw [List.getD_eq_getElem?_getD, List.getElem?_eq_getElem inside, Option.getD_some]
    exact h.pos _ (List.getElem_mem inside)
  unfold taken
  omega

/-- Every next hop limit is the one of some flow. -/
theorem eq_of_mem (h : s.InPass c limit i done) (hn : n ∈ s.next) :
    ∃ flow ∈ c.flowNumbers, n = s.taken flow + 1 := by
  obtain ⟨j, hj, rfl⟩ := List.mem_iff_getElem.mp hn
  have inside : j < c.flows.toNat := h.length ▸ hj
  have number : (UInt16.ofNat j).toNat = j := by
    have := c.flows.toNat_lt
    rw [UInt16.toNat_ofNat']
    omega
  have known : (UInt16.ofNat j).toNat < c.flows.toNat := number.symm ▸ inside
  have next := h.next_eq known
  refine ⟨.ofNat j, List.mem_map_of_mem (List.mem_range.mpr inside), ?_⟩
  rw [← next, number, List.getD_eq_getElem?_getD, List.getElem?_eq_getElem hj, Option.getD_some]

/-- No flow is ahead of the pass, and a flow that has not come to its end has been probed in all
passes before. -/
theorem taken_le (h : s.InPass c limit i done) (hf : flow ∈ c.flowNumbers) :
    s.taken flow ≤ i + 1 ∧ (i ≤ s.taken flow ∨ limit flow ≤ s.taken flow) := by
  rw [h.split] at hf
  rcases List.mem_append.mp hf with hf | hf
  · rcases h.visited flow hf with hsame | ⟨le, ended⟩ <;> omega
  · rcases h.queued flow hf with hsame | ⟨le, ended⟩ <;> omega

theorem taken_queue_le (h : s.InPass c limit i done) (hf : flow ∈ s.queue) : s.taken flow ≤ i := by
  rcases h.queued flow hf with hsame | ⟨le, -⟩
  · exact hsame.le
  · exact le

/-- Before the first visit. -/
theorem start (c : Config) (src : Address) (limit : UInt16 → Nat) (round : UInt32) (now : Instant) :
    (Scheduler.beginSweep (Setup.ofConfig c src) round now).InPass c limit 0 [] := by
  have ok := Scheduler.ok_beginSweep (c := c) src round now
  refine ⟨ok.next_length, ok.next_pos, (Scheduler.flowNumbers_ofConfig c src).symm,
    List.forall_mem_nil _, fun f hf => .inl ?_, fun _ => List.forall_mem_nil _⟩
  have inside := ok.queue_lt f hf
  simp [taken, Scheduler.beginSweep, List.getD_eq_getElem?_getD, Scheduler.length_flowNumbers,
    inside]

/-- A target may be found nearer. -/
theorem mono (h : s.InPass c limit i done) {limit' : UInt16 → Nat}
    (nearer : ∀ f, limit' f ≤ limit f) : s.InPass c limit' i done where
  length := h.length
  pos := h.pos
  split := h.split
  visited f hf := (h.visited f hf).imp_right fun ended => ⟨ended.1, (nearer f).trans ended.2⟩
  queued f hf := (h.queued f hf).imp_right fun ended => ⟨ended.1, (nearer f).trans ended.2⟩
  idle := h.idle

/-! ### Visits -/

/-- The next pass begins. -/
theorem turn (h : s.InPass c limit i done) (hempty : s.queue = []) :
    Sweep.InPass c limit { s with queue := c.flowNumbers, active := false } (i + 1) [] where
  length := h.length
  pos := h.pos
  split := rfl
  visited := List.forall_mem_nil _
  queued f hf := by
    rw [h.split, hempty, List.append_nil] at hf
    exact (h.visited f hf).imp_right fun ended => ⟨ended.1.trans (Nat.le_succ i), ended.2⟩
  idle _ := List.forall_mem_nil _

/-- After a pass without a probe all flows have come to their ends. -/
theorem ended (h : s.InPass c limit i done) (hempty : s.queue = []) (idle : s.active = false)
    (hf : flow ∈ c.flowNumbers) : limit flow ≤ s.taken flow := by
  rw [h.split, hempty, List.append_nil] at hf
  have behind := h.idle idle flow hf
  rcases h.visited flow hf with probed | ⟨-, ended⟩
  · omega
  · exact ended

/-- A flow with nothing more to probe is passed over. -/
theorem skip (h : s.InPass c limit i done) (next : s.queue = flow :: queue)
    (ended : limit flow ≤ s.taken flow) :
    Sweep.InPass c limit { s with queue := queue } i (done ++ [flow]) where
  length := h.length
  pos := h.pos
  split := by rw [h.split, next, List.append_assoc, List.singleton_append]
  visited f hf := by
    rcases List.mem_append.mp hf with hf | hf
    · exact h.visited f hf
    · obtain rfl := List.mem_singleton.mp hf
      exact .inr ⟨h.taken_queue_le (next ▸ List.mem_cons_self), ended⟩
  queued f hf := h.queued f (next ▸ List.mem_cons_of_mem _ hf)
  idle idle f hf := by
    rcases List.mem_append.mp hf with hf | hf
    · exact h.idle idle f hf
    · obtain rfl := List.mem_singleton.mp hf
      exact h.taken_queue_le (next ▸ List.mem_cons_self)

theorem taken_advance (h : s.InPass c limit i done) (hf : flow.toNat < c.flows.toNat)
    (queue : List UInt16) (f : UInt16) :
    (s.advance flow queue).taken f = if flow = f then s.taken flow + 1 else s.taken f := by
  have inside : flow.toNat < s.next.length := h.length ▸ hf
  show (s.next.set flow.toNat (s.next.getD flow.toNat 1 + 1)).getD f.toNat 1 - 1 = _
  rw [Scheduler.getD_set, h.next_eq hf]
  by_cases hsame : flow = f
  · subst hsame
    rw [if_pos ⟨rfl, inside⟩, if_pos rfl, Nat.add_sub_cancel]
  · rw [if_neg fun both => hsame (UInt16.toNat_inj.mp both.1), if_neg hsame, taken]

/-- The flow that comes next in a pass is none of the others. -/
theorem ne_of_next (h : s.InPass c limit i done) (next : s.queue = flow :: queue) :
    (∀ f ∈ done, flow ≠ f) ∧ (∀ f ∈ queue, flow ≠ f) ∧ flow ∈ c.flowNumbers := by
  have nodup := c.nodup_flowNumbers
  rw [h.split, next] at nodup ⊢
  obtain ⟨-, rest, apart⟩ := List.nodup_append.mp nodup
  refine ⟨fun f hf e => apart f hf flow List.mem_cons_self e.symm, fun f hf e => ?_,
    List.mem_append_right _ List.mem_cons_self⟩
  exact (List.nodup_cons.mp rest).1 (e ▸ hf)

/-- A flow that is probed in a pass is probed with the hop limit of the pass. -/
theorem taken_of_next (h : s.InPass c limit i done) (next : s.queue = flow :: queue)
    (more : s.taken flow < limit flow) : s.taken flow = i := by
  rcases h.queued flow (next ▸ List.mem_cons_self) with hsame | ⟨-, ended⟩
  · exact hsame
  · omega

theorem step (h : s.InPass c limit i done) (next : s.queue = flow :: queue)
    (more : s.taken flow < limit flow) :
    (s.advance flow queue).InPass c limit i (done ++ [flow]) := by
  obtain ⟨behind, ahead, mem⟩ := h.ne_of_next next
  have taken := h.taken_advance (Config.mem_flowNumbers.mp mem) queue
  have own := h.taken_of_next next more
  refine ⟨(List.length_set ..).trans h.length, fun n hn => ?_, ?_, fun f hf => ?_, fun f hf => ?_,
    nofun⟩
  · rcases List.mem_or_eq_of_mem_set hn with hn | rfl
    · exact h.pos n hn
    · exact Nat.succ_pos _
  · rw [h.split, next, List.append_assoc, List.singleton_append]
    rfl
  · rcases List.mem_append.mp hf with hf | hf
    · rw [taken, if_neg (behind f hf)]
      exact h.visited f hf
    · obtain rfl := List.mem_singleton.mp hf
      exact .inl (by rw [taken, if_pos rfl, own])
  · rw [taken, if_neg (ahead f hf)]
    exact h.queued f (next ▸ List.mem_cons_of_mem _ hf)

/-! ### Probes up to now -/

variable {round : UInt32}

/-- The probes up to now are those of the passes before and of the flows visited in this one. -/
theorem passes_eq (h : s.InPass c limit i done) (hn : i < n) :
    passes round s.taken c.flowNumbers n =
      passes round s.taken c.flowNumbers i ++ pass round s.taken done i := by
  have ahead : pass round s.taken s.queue i = [] := pass_eq_nil fun f hf => h.taken_queue_le hf
  rw [passes_of_le (fun f hf => (h.taken_le hf).1) hn, passes_succ]
  conv_lhs => rw [h.split, pass_append, ahead, List.append_nil, ← h.split]

/-- One more probe comes last. -/
theorem passes_advance (h : s.InPass c limit i done) (next : s.queue = flow :: queue)
    (more : s.taken flow < limit flow) (hn : i < n) :
    passes round (s.advance flow queue).taken c.flowNumbers n =
      passes round s.taken c.flowNumbers n ++ [⟨flow, round, UInt8.ofNat (i + 1)⟩] := by
  obtain ⟨behind, -, mem⟩ := h.ne_of_next next
  have taken := h.taken_advance (Config.mem_flowNumbers.mp mem) queue
  have own := h.taken_of_next next more
  -- Only the pass that is under way changes, and in it only the flow that is probed.
  have before : passes round (s.advance flow queue).taken c.flowNumbers i =
      passes round s.taken c.flowNumbers i := by
    refine passes_congr fun f _ j hj => ?_
    rw [taken]
    split
    · rename_i same
      subst same
      omega
    · exact Iff.rfl
  have visited : pass round (s.advance flow queue).taken done i = pass round s.taken done i :=
    pass_congr fun f hf => by rw [taken, if_neg (behind f hf)]
  have probed : pass round (s.advance flow queue).taken [flow] i =
      [⟨flow, round, UInt8.ofNat (i + 1)⟩] := by
    have here : i < (s.advance flow queue).taken flow := by rw [taken, if_pos rfl]; omega
    simp [pass, here]
  rw [(h.step next more).passes_eq hn, h.passes_eq hn, before, pass_append, visited, probed,
    List.append_assoc]

/-- What is probed up to now begins every itinerary in which only flows go on that have not come to
their ends. -/
theorem isPrefix (h : s.InPass c limit i done) {last : UInt16 → Nat}
    (le : ∀ f ∈ c.flowNumbers, s.taken f ≤ last f)
    (ended : ∀ f ∈ c.flowNumbers, limit f ≤ s.taken f → last f = s.taken f) (n : Nat) :
    passes round s.taken c.flowNumbers n <+: passes round last c.flowNumbers n := by
  -- A flow that was not probed in one of the passes before is at its end in both itineraries.
  have before {m : Nat} (hm : m ≤ i) :
      passes round s.taken c.flowNumbers m = passes round last c.flowNumbers m := by
    refine passes_congr fun f hf j hj => ?_
    have most := le f hf
    rcases (h.taken_le hf).2 with probed | finished
    · omega
    · rw [ended f hf finished]
  by_cases hn : i < n
  · have visited : pass round s.taken done i = pass round last done i := by
      refine pass_congr fun f hf => ?_
      have mem : f ∈ c.flowNumbers := h.split ▸ List.mem_append_left _ hf
      have most := le f mem
      rcases h.visited f hf with probed | ⟨-, finished⟩
      · omega
      · rw [ended f mem finished]
    have further : pass round last c.flowNumbers i =
        pass round last done i ++ pass round last s.queue i := by
      rw [← pass_append, ← h.split]
    refine List.IsPrefix.trans ?_ (prefix_passes hn)
    rw [h.passes_eq hn, before (Nat.le_refl i), visited, passes_succ, further, ← List.append_assoc]
    exact List.prefix_append ..
  · rw [before (Nat.le_of_not_lt hn)]

end Sweep.InPass

end Session

end FlowTrace
