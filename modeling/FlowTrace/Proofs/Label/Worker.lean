import FlowTrace.Proofs.Label.Cache

/-!
# The worker that fills a cache of labels

The worker makes one go for each snapshot that it is shown. Its resolver may be anything: a lookup
may change a state of its own and answer by it. `logged` puts a record of all lookups with their
answers beside that state, so that `calls` are the lookups of a whole run and `labels` the cache
that it leaves.

* `Snapshot.mem_addresses`: a snapshot lists the addresses of the responders that it shows.
* `step_work`: what one more snapshot adds to both: an answer for each of the ten least missing
  addresses, in order.
* `resolves_once`: no address is looked up twice, or at all if it is in the cache; no entry changes;
  every go looks up the ten least responders that are missing; and a set of responders that keeps
  being shown is complete after a tenth of their number of goes.
-/

namespace FlowTrace

/-! ## The addresses of a snapshot -/

namespace Snapshot

/-- Some flow shows a responder with the address at one of its hops. -/
def ShowsResponder (s : Snapshot) (a : Address) : Prop :=
  ∃ f ∈ s.flows, ∃ h ∈ f.hops, ∃ r ∈ h.responders, r.addr = a

theorem mem_addresses {s : Snapshot} {a : Address} : a ∈ s.addresses ↔ s.ShowsResponder a := by
  simp only [addresses, HopRecord.addresses, List.mem_flatMap, List.mem_map, ShowsResponder]

end Snapshot

namespace LabelCache

variable {σ : Type}

/-- A resolver with a record of what it was asked and has answered. -/
def logged (resolve : Address → StateM σ Label) (a : Address) :
    StateM (σ × List (Address × Label)) Label :=
  fun (s, log) =>
    let answered := (resolve a).run s
    (answered.1, answered.2, log ++ [(a, answered.1)])

/-- A run of the worker over some snapshots: the cache that it leaves, the state of the resolver and
the record. -/
def workLogged (resolve : Address → StateM σ Label) (start : σ) (c : LabelCache)
    (shown : List Snapshot) : LabelCache × σ × List (Address × Label) :=
  (c.work (logged resolve) (shown.map (·.addresses))).run (start, [])

/-- The cache after some snapshots. -/
def labels (resolve : Address → StateM σ Label) (start : σ) (c : LabelCache)
    (shown : List Snapshot) : LabelCache := (workLogged resolve start c shown).1

/-- All lookups with their answers, in order. -/
def calls (resolve : Address → StateM σ Label) (start : σ) (c : LabelCache)
    (shown : List Snapshot) : List (Address × Label) := (workLogged resolve start c shown).2.2

/-- The addresses that have been looked up, in order. -/
def asked (resolve : Address → StateM σ Label) (start : σ) (c : LabelCache)
    (shown : List Snapshot) : List Address := (calls resolve start c shown).map (·.1)

variable {resolve : Address → StateM σ Label} {start : σ} {c : LabelCache} {shown : List Snapshot}

/-! ## One go -/

theorem run_bind_eq {τ α β : Type} {x : StateM τ α} {f : α → StateM τ β} {s s' : τ} {a : α}
    (h : x.run s = (a, s')) : (x >>= f).run s = (f a).run s' := by
  rw [StateT.run_bind, h]
  rfl

/-- Lookups one after the other leave their answers at the end of the record. -/
theorem run_mapM_answer (resolve : Address → StateM σ Label) (as : List Address) (s : σ)
    (log : List (Address × Label)) :
    ∃ answers s', answers.map (·.1) = as ∧
      (as.mapM (answer (logged resolve))).run (s, log) = (answers, s', log ++ answers) := by
  induction as generalizing s log with
  | nil => exact ⟨[], s, rfl, by rw [List.append_nil]; rfl⟩
  | cons a as ih =>
    let label := ((resolve a).run s).1
    obtain ⟨answers, s', about, rest⟩ := ih ((resolve a).run s).2 (log ++ [(a, label)])
    have first : (answer (logged resolve) a).run (s, log) =
        ((a, label), ((resolve a).run s).2, log ++ [(a, label)]) := rfl
    refine ⟨(a, label) :: answers, s', by rw [List.map_cons, about], ?_⟩
    rw [List.mapM_cons, run_bind_eq first, run_bind_eq rest, List.append_assoc]
    rfl

/-- What one more snapshot adds to a run: an answer for each of the ten least addresses that the
cache lacks, in order. -/
theorem step_work (resolve : Address → StateM σ Label) (start : σ) (c : LabelCache)
    (shown : List Snapshot) (s : Snapshot) :
    ∃ answers, answers.map (·.1) = (labels resolve start c shown).batch s.addresses ∧
      labels resolve start c (shown ++ [s]) = (labels resolve start c shown).store answers ∧
      calls resolve start c (shown ++ [s]) = calls resolve start c shown ++ answers := by
  rcases before : workLogged resolve start c shown with ⟨c', s', log⟩
  obtain ⟨answers, s₂, about, looked⟩ := run_mapM_answer resolve (c'.batch s.addresses) s' log
  have after : workLogged resolve start c (shown ++ [s]) =
      (c'.store answers, s₂, log ++ answers) := by
    rw [workLogged, work] at before ⊢
    rw [List.map_append, List.foldlM_append, run_bind_eq before, List.map_singleton,
      List.foldlM_cons]
    have go : (tickWith (logged resolve) c' s.addresses).run (s', log) =
        (c'.store answers, s₂, log ++ answers) := by
      rw [tickWith, run_bind_eq looked]
      rfl
    rw [run_bind_eq go]
    rfl
  refine ⟨answers, ?_, ?_, ?_⟩
  · rw [labels, before, about]
  · rw [labels, labels, after, before]
  · rw [calls, calls, after, before]

/-! ## Whole runs -/

theorem contains_labels {a : Address} :
    (labels resolve start c shown).contains a ↔
      a ∈ asked resolve start c shown ∨ c.contains a := by
  induction shown using List.reverseRecOn with
  | nil => exact (or_iff_right List.not_mem_nil).symm
  | append_singleton shown s ih =>
    obtain ⟨answers, about, cache, log⟩ := step_work resolve start c shown s
    have once : (answers.map (·.1)).Nodup := about ▸ nodup_batch ..
    rw [cache, contains_store once, ih, asked, asked, log, List.map_append, List.mem_append]
    tauto

/-- No address is looked up that was in the cache at the start, and none is twice. -/
theorem nodup_asked :
    (asked resolve start c shown).Nodup ∧
      ∀ a ∈ asked resolve start c shown, c.contains a = false := by
  induction shown using List.reverseRecOn with
  | nil => exact ⟨List.nodup_nil, fun _ h => absurd h List.not_mem_nil⟩
  | append_singleton shown s ih =>
    obtain ⟨answers, about, -, log⟩ := step_work resolve start c shown s
    have grown : asked resolve start c (shown ++ [s]) =
        asked resolve start c shown ++ (labels resolve start c shown).batch s.addresses := by
      rw [asked, log, List.map_append, about]
      rfl
    -- what the new batch asks about is not in the cache yet
    have unknown {a : Address} (h : a ∈ (labels resolve start c shown).batch s.addresses) :
        a ∉ asked resolve start c shown ∧ c.contains a = false := by
      have lacks := (mem_absent.mp (mem_absent_of_mem_batch h)).2
      rw [← Bool.not_eq_true, contains_labels, not_or, Bool.not_eq_true] at lacks
      exact lacks
    rw [grown]
    refine ⟨List.nodup_append'.mpr ⟨ih.1, nodup_batch .., fun _ old new => (unknown new).1 old⟩,
      fun a h => ?_⟩
    exact (List.mem_append.mp h).elim (ih.2 a) fun new => (unknown new).2

theorem lookup_labels_append (later : List Snapshot) {a : Address} {label : Label}
    (h : (labels resolve start c shown).entries.lookup a = some label) :
    (labels resolve start c (shown ++ later)).entries.lookup a = some label := by
  induction later using List.reverseRecOn with
  | nil => rwa [List.append_nil]
  | append_singleton later s ih =>
    obtain ⟨answers, about, cache, -⟩ := step_work resolve start c (shown ++ later) s
    rw [← List.append_assoc, cache]
    exact lookup_store_batch about ih

theorem lookup_labels_of_mem_calls {a : Address} {label : Label}
    (h : (a, label) ∈ calls resolve start c shown) :
    (labels resolve start c shown).entries.lookup a = some label := by
  induction shown using List.reverseRecOn with
  | nil => cases h
  | append_singleton shown s ih =>
    obtain ⟨answers, about, cache, log⟩ := step_work resolve start c shown s
    rw [log, List.mem_append] at h
    rcases h with old | new
    · exact lookup_labels_append [s] (ih old)
    · rw [cache]
      exact lookup_store (about ▸ nodup_batch ..) new

/-- While the same addresses are shown, every go has ten fewer to do. -/
theorem card_absent_labels {addrs : Finset Address}
    (hs : ∀ s ∈ shown, s.addresses.toFinset = addrs) :
    ((labels resolve start c shown).absent addrs).card =
      (c.absent addrs).card - shown.length * batchSize := by
  induction shown using List.reverseRecOn with
  | nil => rw [List.length_nil, Nat.zero_mul]; rfl
  | append_singleton shown s ih =>
    obtain ⟨answers, about, cache, -⟩ := step_work resolve start c shown s
    have before := ih fun t h => hs t (List.mem_append_left _ h)
    obtain rfl := hs s (List.mem_append_right _ (List.mem_singleton_self s))
    rw [cache, card_absent_store about, before, List.length_append, List.length_singleton,
      Nat.succ_mul]
    omega

/-- What the worker keeps to in every run, whatever it is shown and whatever the answers are. -/
structure ResolvesOnce (resolve : Address → StateM σ Label) (start : σ) (c : LabelCache) :
    Prop where
  /-- No address is looked up twice. -/
  once : ∀ shown, (asked resolve start c shown).Nodup
  /-- No address is looked up that is in the cache at the start. -/
  fresh : ∀ shown, ∀ a ∈ asked resolve start c shown, c.contains a = false
  /-- A go looks up at most ten addresses. -/
  few : ∀ shown s, (asked resolve start c (shown ++ [s])).length ≤
    (asked resolve start c shown).length + 10
  /-- A go looks up the ten least of the responders that its snapshot shows and the cache lacks, or
  all of them, in order. -/
  least : ∀ shown s, ∃ missing : Finset Address,
    (∀ a, a ∈ missing ↔
      s.ShowsResponder a ∧ (labels resolve start c shown).contains a = false) ∧
    asked resolve start c (shown ++ [s]) = asked resolve start c shown ++ missing.sort.take 10
  /-- Every answer is kept, also one that says nothing. -/
  kept : ∀ shown, ∀ call ∈ calls resolve start c shown,
    (labels resolve start c shown).entries.lookup call.1 = some call.2
  /-- No entry is removed or changed. -/
  steady : ∀ shown later a label, (labels resolve start c shown).entries.lookup a = some label →
    (labels resolve start c (shown ++ later)).entries.lookup a = some label
  /-- No entry is added without a lookup. -/
  only : ∀ shown a, (labels resolve start c shown).contains a ↔
    a ∈ asked resolve start c shown ∨ c.contains a
  /-- If the same responders are shown all the time, then after a tenth as many goes as were missing
  at first, rounded up, none is missing any more. -/
  complete : ∀ shown (addrs : Finset Address), (∀ s ∈ shown, ∀ a, s.ShowsResponder a ↔ a ∈ addrs) →
    ((c.absent addrs).card + 9) / 10 ≤ shown.length →
    ∀ a ∈ addrs, (labels resolve start c shown).contains a

/-- Every address is looked up once at most, the least missing ones first and ten in a go, and no
entry of the cache is ever lost. -/
theorem resolves_once (resolve : Address → StateM σ Label) (start : σ) (c : LabelCache) :
    ResolvesOnce resolve start c := by
  have go (shown : List Snapshot) (s : Snapshot) :
      asked resolve start c (shown ++ [s]) = asked resolve start c shown ++
        ((labels resolve start c shown).absent s.addresses.toFinset).sort.take 10 := by
    obtain ⟨answers, about, -, log⟩ := step_work resolve start c shown s
    rw [asked, log, List.map_append, about, batch_eq_take_sort]
    rfl
  refine
    { once := fun _ => nodup_asked.1
      fresh := fun _ => nodup_asked.2
      few := fun shown s => ?_
      least := fun shown s => ⟨_, fun a => ?_, go shown s⟩
      kept := fun _ _ h => lookup_labels_of_mem_calls h
      steady := fun _ later _ _ h => lookup_labels_append later h
      only := fun _ _ => contains_labels
      complete := fun shown addrs hs henough a ha => ?_ }
  · rw [go, List.length_append]
    exact Nat.add_le_add_left (List.length_take_le ..) _
  · rw [mem_absent, List.mem_toFinset, Snapshot.mem_addresses]
  · have shownSet (s : Snapshot) (h : s ∈ shown) : s.addresses.toFinset = addrs := by
      ext b
      rw [List.mem_toFinset, Snapshot.mem_addresses, hs s h]
    have none : (labels resolve start c shown).absent addrs = ∅ := by
      rw [← Finset.card_eq_zero, card_absent_labels shownSet, batchSize]
      omega
    by_contra lacks
    have missing := mem_absent.mpr ⟨ha, Bool.eq_false_iff.mpr lacks⟩
    rw [none] at missing
    exact Finset.notMem_empty a missing

/-- What a go looks up, as a list: the first ten of a list in order that has the responders of the
snapshot, but not those that were looked up before or known from the start. -/
theorem ResolvesOnce.asked_concat (h : ResolvesOnce resolve start c) (shown : List Snapshot)
    (s : Snapshot) (hosts : List Address) (hsort : hosts.Pairwise (· < ·))
    (hmem : ∀ a ∈ hosts, a ∈ s.addresses ∧ a ∉ asked resolve start c shown ∧ c.contains a = false)
    (hall : ∀ a ∈ s.addresses, a ∈ hosts ∨ a ∈ asked resolve start c shown ∨ c.contains a) :
    asked resolve start c (shown ++ [s]) = asked resolve start c shown ++ hosts.take 10 := by
  obtain ⟨missing, hmissing, looked⟩ := h.least shown s
  have hsame : missing = hosts.toFinset := by
    ext a
    rw [hmissing, ← Snapshot.mem_addresses, ← Bool.not_eq_true, h.only, List.mem_toFinset]
    constructor
    · rintro ⟨listed, lacks⟩
      exact (hall a listed).resolve_right lacks
    · intro ha
      obtain ⟨listed, notAsked, unknown⟩ := hmem a ha
      exact ⟨listed, not_or.mpr ⟨notAsked, Bool.not_eq_true _ ▸ unknown⟩⟩
  have order : hosts.toFinset.sort = hosts :=
    (List.toFinset_sort _ (hsort.imp ne_of_lt)).mpr (hsort.imp le_of_lt)
  rw [looked, hsame, order]

/-- A resolver that counts its lookups and finds nothing. -/
def findNothing (_ : Address) : StateM Nat Label := modifyGet fun n => (.unresolved, n + 1)

def host (n : UInt8) : Address := .ofOctets4 192 0 2 n

/-- A flow with one hop and its responders. -/
def oneHop (flow : UInt16) (hosts : List UInt8) : FlowSnapshot where
  flow := flow
  targetTtl := none
  hops := [{ HopRecord.new 1 with responders := hosts.map fun n => ⟨host n, 1, 0, .empty⟩ }]

/-- Twelve responders, two of which answer on both flows. -/
def twelveResponders : Snapshot where
  target := host 12
  status := .running
  round := 0
  roundsCompleted := 0
  flows := [oneHop 0 [12, 4, 11, 3, 10], oneHop 1 [3, 9, 4, 8, 7, 6, 5, 2, 1]]
  counters := {}

/-- A cache that knows the fourth of them. -/
def oneKnown : LabelCache := .ofList [(host 4, .unresolved)]

/-- The first go looks up ten of them, the second go the last one, and nobody is asked about the
fourth. -/
theorem resolves_once_twelveResponders :
    asked findNothing 0 oneKnown [twelveResponders] =
        [1, 2, 3, 5, 6, 7, 8, 9, 10, 11].map host ∧
      asked findNothing 0 oneKnown [twelveResponders, twelveResponders] =
        [1, 2, 3, 5, 6, 7, 8, 9, 10, 11, 12].map host ∧
      ∀ a, twelveResponders.ShowsResponder a →
        (labels findNothing 0 oneKnown [twelveResponders, twelveResponders]).contains a := by
  have worker := resolves_once findNothing 0 oneKnown
  have first : asked findNothing 0 oneKnown [twelveResponders] =
      [1, 2, 3, 5, 6, 7, 8, 9, 10, 11].map host :=
    worker.asked_concat [] twelveResponders
      ([1, 2, 3, 5, 6, 7, 8, 9, 10, 11, 12].map host) (by decide) (by decide) (by decide)
  have second := worker.asked_concat [twelveResponders] twelveResponders [host 12]
    (by decide) (by rw [first]; decide) (by rw [first]; decide)
  rw [first] at second
  refine ⟨first, second, fun a ha => ?_⟩
  have all := worker.complete [twelveResponders, twelveResponders]
    twelveResponders.addresses.toFinset
  refine all (fun s hs b => ?_) (by decide) a ?_
  · obtain rfl : s = twelveResponders := by simpa using hs
    rw [List.mem_toFinset, Snapshot.mem_addresses]
  · rwa [List.mem_toFinset, Snapshot.mem_addresses]

end LabelCache

end FlowTrace
