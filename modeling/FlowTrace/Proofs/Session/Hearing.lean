import FlowTrace.Proofs.Outstanding.Account
import FlowTrace.Proofs.Response.Shape
import FlowTrace.Proofs.Session.Effect

/-!
# A listener accounts for every packet

- **Runs** (`Hearing.run`): a listener on any reads of a source that does not break down, with a
  shutdown at any moments. A run keeps the reads that were made and the events that packets became.
- **Steps** (`Hearing.Step`): what one turn of a run can do.
- **Batches** (`Hearing.Accounts`): what was heard is applied batch by batch and settled after that,
  so at every moment the settled events begin the applied ones, and these the heard ones.
- **Errors** (`Hearing.Watches`): the listener counts the errors at the end of its reads, and fails
  as soon as there are fifty.
- **End** (`ended_of_shutdown`): after a shutdown it takes a bounded number of steps.
- **Main result** (`accounts_for_every_packet`): whenever a listener has ended, all packets are
  counted, all claims are applied and settled, and it has failed exactly if its last fifty reads
  did.
-/

namespace FlowTrace

/-- The packets that are counted. -/
def Counters.packets (c : Counters) : Nat :=
  c.answered + c.timedOut + c.decodeDiscarded + c.unmatched

/-- The table after a batch, which is left alone if it is empty. -/
def HopTable.applyAny (t : HopTable) (es : List Event) : HopTable :=
  if es = [] then t else t.apply es

/-- Two batches are applied as one. -/
theorem HopTable.applyAny_append (t : HopTable) (es : List Event) {es' : List Event}
    (h : es' ≠ []) : (t.applyAny es).apply es' = t.applyAny (es ++ es') := by
  unfold applyAny
  by_cases empty : es = []
  · simp [empty, h]
  · simp [empty, apply, publish, List.foldl_append]

/-- Every event but the outcome of a send counts one packet. -/
theorem packets_foldl (s : HopState) {es : List Event} (h : ∀ e ∈ es, ¬ e.IsSend) :
    (es.foldl HopState.apply s).counters.packets = s.counters.packets + es.length := by
  induction es generalizing s with
  | nil => rfl
  | cons e es ih =>
    have one : (s.apply e).counters.packets = s.counters.packets + 1 := by
      rw [HopState.counters_apply]
      have quiet := h e List.mem_cons_self
      unfold Counters.packets
      cases e with
      | sent | sendFailed => exact (quiet trivial).elim
      | _ => simp only [Counters.count]; omega
    rw [List.foldl_cons, ih _ fun x hx => h x (List.mem_cons_of_mem _ hx), one, List.length_cons]
    omega

/-- The probes of a round that are claimed and not settled. -/
def Outstanding.claimedIn (o : Outstanding) (round : UInt32) : Nat :=
  o.inRound round - (o.waiting.map (·.round)).count round

namespace Session

def Read.isPacket : Read → Bool
  | .packet .. => true
  | _ => false

def Read.isError : Read → Bool
  | .failed _ => true
  | _ => false

/-- A read of a source that does not break down. -/
abbrev Received := { read : Read // ∀ text, read ≠ .crashed text }

/-- The errors at the end of some reads. -/
def trailingErrors (reads : List Read) : Nat := (reads.reverse.takeWhile Read.isError).length

theorem trailingErrors_concat (reads : List Read) (read : Read) :
    trailingErrors (reads ++ [read]) = if read.isError then trailingErrors reads + 1 else 0 := by
  unfold trailingErrors
  rw [List.reverse_append, List.reverse_singleton, List.singleton_append, List.takeWhile_cons]
  split <;> rfl

/-- There are `n` errors at the end of the reads if the last `n` reads are errors. -/
theorem le_trailingErrors_iff {reads : List Read} {n : Nat} :
    n ≤ trailingErrors reads ↔ ∃ before last, reads = before ++ last ∧ last.length = n ∧
      ∀ read ∈ last, read.isError = true := by
  unfold trailingErrors
  constructor
  · intro enough
    obtain ⟨rest, split⟩ := List.takeWhile_prefix (l := reads.reverse) Read.isError
    refine ⟨(reads.reverse.drop n).reverse, (reads.reverse.take n).reverse, ?_, ?_, ?_⟩
    · rw [← List.reverse_append, List.take_append_drop, List.reverse_reverse]
    · have hshort := congrArg List.length split
      rw [List.length_append] at hshort
      rw [List.length_reverse, List.length_take]
      omega
    · intro read hr
      rw [List.mem_reverse, ← split, List.take_append_of_le_length enough] at hr
      exact List.all_eq_true.mp List.all_takeWhile read (List.mem_of_mem_take hr)
  · rintro ⟨before, last, rfl, rfl, errors⟩
    rw [List.reverse_append, List.takeWhile_append_of_pos fun read hr =>
      errors read (List.mem_reverse.mp hr), List.length_append, List.length_reverse]
    exact Nat.le_add_right ..

namespace Listener

/-- How the listener is going to end after its batch, or has ended. -/
def Phase.failure? : Phase → Option ListenerError
  | .applying _ failure | .settling _ failure | .ended failure => failure
  | _ => none

theorem failure?_closeBatch (batch : List Event) (failure : Option ListenerError) :
    (closeBatch batch failure).failure? = failure := by
  unfold closeBatch
  split
  · cases failure <;> rfl
  · rfl

theorem failure?_addEvent (batch : List Event) (e : Event) :
    (addEvent batch e).failure? = none := by
  simp only [addEvent]
  split <;> rfl

/-- No batch ends a listener without a failure. -/
theorem closeBatch_ne_ended (batch : List Event) (failure : Option ListenerError) :
    closeBatch batch failure ≠ .ended none := by
  unfold closeBatch
  split
  · cases failure <;> simp
  · simp

theorem addEvent_ne_ended (batch : List Event) (e : Event) : addEvent batch e ≠ .ended none := by
  simp only [addEvent]
  split <;> simp

/-- What is applied is settled but for the batch that is being settled. -/
def Phase.Owes (settled applied : List Event) : Phase → Prop
  | .settling rounds _ => ∃ last, applied = settled ++ last ∧ rounds = resolvedRounds last
  | .applying batch _ => applied = settled ∧ batch ≠ []
  | _ => applied = settled

theorem owes_closeBatch (es : List Event) (batch : List Event) (failure : Option ListenerError) :
    (closeBatch batch failure).Owes es es := by
  unfold closeBatch
  split
  · cases failure <;> rfl
  · exact ⟨rfl, ‹_›⟩

theorem owes_addEvent (es batch : List Event) (e : Event) : (addEvent batch e).Owes es es := by
  simp only [addEvent]
  split
  · rfl
  · exact ⟨rfl, by simp⟩

/-- A packet always becomes an event. -/
theorem exists_hear (setup : Setup) (now : Instant) (index : Outstanding) (data : Bytes)
    (source : Address) (framing : Framing) :
    ∃ e index', hear setup now index data source framing = .ok (e, index') := by
  obtain ⟨found, decoded, -⟩ := setup.decoder.finds_decode source data framing
  unfold hear
  rw [decoded]
  cases found with
  | none => exact ⟨_, _, rfl⟩
  | some response => exact ⟨_, _, rfl⟩

end Listener

/-! ## Runs -/

/-- What happens next in a run. -/
inductive Turn where
  /-- The session shuts down. -/
  | shutdown
  /-- The listener takes a step; `read` is what its source gives, if it reads. -/
  | listen (now : Instant) (read : Received)

/-- A listener in a run. -/
structure Hearing where
  listener : Listener
  shared : Shared
  /-- The reads that it has made. -/
  reads : List Read
  /-- The events that packets have become. -/
  heard : List Event

namespace Hearing

/-- The run after one more turn. -/
def turn (setup : Setup) (h : Hearing) : Turn → Hearing
  | .shutdown => { h with shared := { h.shared with shutdown := true } }
  | .listen now read =>
    (h.listener.step setup now read h.shared).elim h fun (listener, shared) =>
      { listener := listener
        shared := shared
        reads := h.reads ++ if h.listener.isReading then [read.val] else []
        heard := h.heard ++ h.listener.hears setup now read h.shared }

/-- A run of a listener that begins with `w`. -/
def run (setup : Setup) (w : Shared) (turns : List Turn) : Hearing :=
  turns.foldl (turn setup) ⟨.new, w, [], []⟩

theorem run_append (setup : Setup) (w : Shared) (turns more : List Turn) :
    run setup w (turns ++ more) = more.foldl (turn setup) (run setup w turns) := List.foldl_append

/-- One step of the listener in a run. -/
inductive Step (setup : Setup) : Hearing → Hearing → Prop
  | rest (h : Hearing) (failure : Option ListenerError)
      (ended : h.listener.phase = .ended failure) : Step setup h h
  | leave (buffer : Bytes) (errors : Nat) (w : Shared) (reads : List Read) (heard : List Event)
      (shut : w.shutdown = true) :
    Step setup ⟨⟨.idle, buffer, errors⟩, w, reads, heard⟩
      ⟨⟨.ended none, buffer, errors⟩, w, reads, heard⟩
  | look (buffer : Bytes) (errors : Nat) (w : Shared) (reads : List Read) (heard : List Event)
      (running : w.shutdown = false) :
    Step setup ⟨⟨.idle, buffer, errors⟩, w, reads, heard⟩
      ⟨⟨.draining [], buffer, errors⟩, w, reads, heard⟩
  | hear (batch : List Event) (buffer buffer' : Bytes) (errors : Nat) (w : Shared)
      (reads : List Read) (heard : List Event) (read : Read) (packet : read.isPacket = true)
      (now : Instant) (data : Bytes) (source : Address) (framing : Framing) (e : Event)
      (index : Outstanding)
      (hears : Listener.hear setup now w.index data source framing = .ok (e, index)) :
    Step setup ⟨⟨.draining batch, buffer, errors⟩, w, reads, heard⟩
      ⟨⟨Listener.addEvent batch e, buffer', 0⟩, { w with index := index }, reads ++ [read],
        heard ++ [e]⟩
  | miss (batch : List Event) (buffer : Bytes) (errors : Nat) (w : Shared) (reads : List Read)
      (heard : List Event) :
    Step setup ⟨⟨.draining batch, buffer, errors⟩, w, reads, heard⟩
      ⟨⟨Listener.closeBatch batch none, buffer, 0⟩, w, reads ++ [.nothing], heard⟩
  | fail (batch : List Event) (buffer : Bytes) (errors : Nat) (w : Shared) (reads : List Read)
      (heard : List Event) (text : String) :
    Step setup ⟨⟨.draining batch, buffer, errors⟩, w, reads, heard⟩
      ⟨⟨Listener.closeBatch batch
          (if Listener.maxErrors ≤ errors + 1 then some (.readErrors (errors + 1) text) else none),
        buffer, errors + 1⟩, w, reads ++ [.failed text], heard⟩
  | apply (batch : List Event) (failure : Option ListenerError) (buffer : Bytes) (errors : Nat)
      (w : Shared) (reads : List Read) (heard : List Event) :
    Step setup ⟨⟨.applying batch failure, buffer, errors⟩, w, reads, heard⟩
      ⟨⟨.settling (resolvedRounds batch) failure, buffer, errors⟩, w.mapTable (·.apply batch),
        reads, heard⟩
  | settle (rounds : List UInt32) (failure : Option ListenerError) (buffer : Bytes) (errors : Nat)
      (w : Shared) (reads : List Read) (heard : List Event) :
    Step setup ⟨⟨.settling rounds failure, buffer, errors⟩, w, reads, heard⟩
      ⟨⟨Listener.closeBatch [] failure, buffer, errors⟩, w.mapIndex (·.settle rounds), reads, heard⟩

variable {setup : Setup} {w : Shared} {h h' : Hearing}

/-- A read is one of three steps. -/
theorem step_of_read (setup : Setup) (batch : List Event) (buffer : Bytes) (errors : Nat)
    (w : Shared) (reads : List Read) (heard : List Event) (now : Instant) (read : Received) :
    Step setup ⟨⟨.draining batch, buffer, errors⟩, w, reads, heard⟩
      (turn setup ⟨⟨.draining batch, buffer, errors⟩, w, reads, heard⟩ (.listen now read)) := by
  obtain ⟨read, whole⟩ := read
  cases read with
  | packet data length source framing =>
    obtain ⟨e, index, hears⟩ := Listener.exists_hear setup now w.index
      ((Listener.fill buffer data).take length) source framing
    have hearing := Step.hear batch buffer (Listener.fill buffer data) errors w reads heard
      (.packet data length source framing) rfl now _ source framing e index hears
    simpa [turn, Listener.step, Listener.take, Listener.isReading, Listener.hears, hears] using
      hearing
  | nothing =>
    simpa [turn, Listener.step, Listener.take, Listener.isReading, Listener.hears] using
      Step.miss batch buffer errors w reads heard
  | failed text =>
    simpa [turn, Listener.step, Listener.take, Listener.isReading, Listener.hears] using
      Step.fail batch buffer errors w reads heard text
  | crashed text => exact (whole text rfl).elim

/-- The listener does one of these steps. -/
theorem step_listen (setup : Setup) (h : Hearing) (now : Instant) (read : Received) :
    Step setup h (h.turn setup (.listen now read)) := by
  obtain ⟨⟨phase, buffer, errors⟩, w, reads, heard⟩ := h
  cases phase with
  | draining batch => exact step_of_read ..
  | ended failure => exact .rest _ failure rfl
  | idle =>
    cases shut : w.shutdown with
    | true =>
      simpa [turn, Listener.step, Listener.isReading, Listener.hears, shut] using
        Step.leave buffer errors w reads heard shut
    | false =>
      simpa [turn, Listener.step, Listener.isReading, Listener.hears, shut] using
        Step.look buffer errors w reads heard shut
  | applying batch failure =>
    simpa [turn, Listener.step, Listener.isReading, Listener.hears] using
      Step.apply batch failure buffer errors w reads heard
  | settling rounds failure =>
    simpa [turn, Listener.step, Listener.isReading, Listener.hears] using
      Step.settle rounds failure buffer errors w reads heard

/-- What holds at the start, and is kept by a shutdown and by every step, holds after every run. -/
theorem run_induction {P : Hearing → Prop} (setup : Setup) (w : Shared) (turns : List Turn)
    (new : P ⟨.new, w, [], []⟩) (shutdown : ∀ h, P h → P (h.turn setup .shutdown))
    (step : ∀ h h', Step setup h h' → P h → P h') : P (run setup w turns) := by
  induction turns using List.reverseRecOn with
  | nil => exact new
  | append_singleton turns t ih =>
    rw [run_append]
    cases t with
    | shutdown => exact shutdown _ ih
    | listen now read => exact step _ _ (step_listen setup _ now read) ih

/-! ## Batches -/

/-- What has become of the events that were heard in a run from `w` on: those that are settled,
those that are applied, and the probes that they resolve. -/
structure Accounts (w : Shared) (h : Hearing) (settled applied : List Event)
    (claimed : List PendingProbe) : Prop where
  wf : h.shared.index.WF
  heard : h.heard = applied ++ h.listener.phase.batch
  owes : h.listener.phase.Owes settled applied
  silent : ∀ e ∈ h.heard, ¬ e.IsSend
  table : h.shared.table = w.table.applyAny applied
  waiting : w.index.waiting.Perm (claimed ++ h.shared.index.waiting)
  keys : claimed.map (·.key) = resolvedKeys h.heard
  inRound : ∀ r, h.shared.index.inRound r = w.index.inRound r - (resolvedRounds settled).count r

theorem accounts_new (wf : w.index.WF) : Accounts w ⟨.new, w, [], []⟩ [] [] [] :=
  ⟨wf, rfl, rfl, List.forall_mem_nil _, rfl, .refl _, rfl, fun _ => rfl⟩

/-- Every step keeps the accounts. -/
theorem Step.accounts {settled applied : List Event} {claimed : List PendingProbe}
    (ht : Step setup h h') (ha : Accounts w h settled applied claimed) :
    ∃ settled' applied' claimed', Accounts w h' settled' applied' claimed' := by
  obtain ⟨wf, heard_eq, owes, silent, table, waiting, keys, inRound⟩ := ha
  cases ht with
  | rest | leave | look =>
    exact ⟨settled, applied, claimed, wf, heard_eq, owes, silent, table, waiting, keys, inRound⟩
  -- What an event claims is owed from then on, until its batch is settled.
  | hear batch _ _ _ _ _ _ _ _ _ _ _ _ e index hears =>
    obtain ⟨ps, claims, resolved, quiet⟩ := Listener.claims_of_hear wf hears
    obtain rfl : applied = settled := owes
    refine ⟨applied, applied, claimed ++ ps, claims.wf wf, ?_, Listener.owes_addEvent .., ?_, table,
      ?_, ?_, fun r => (claims.inRound r).trans (inRound r)⟩
    · rw [Listener.batch_addEvent, ← List.append_assoc]
      exact congrArg (· ++ [e]) heard_eq
    · intro x hx
      rcases List.mem_append.mp hx with hx | hx
      · exact silent x hx
      · exact List.mem_singleton.mp hx ▸ quiet
    · rw [List.append_assoc]
      exact waiting.trans (claims.waiting.append_left claimed)
    · rw [List.map_append, keys, resolvedKeys_append, resolved]
  | miss batch =>
    obtain rfl : applied = settled := owes
    refine ⟨applied, applied, claimed, wf, ?_, Listener.owes_closeBatch applied batch none, silent,
      table, waiting, keys, inRound⟩
    rw [Listener.batch_closeBatch]
    exact heard_eq
  | fail batch =>
    obtain rfl : applied = settled := owes
    refine ⟨applied, applied, claimed, wf, ?_, Listener.owes_closeBatch applied batch _, silent,
      table, waiting, keys, inRound⟩
    rw [Listener.batch_closeBatch]
    exact heard_eq
  -- A batch goes to the table first. It is settled in a later step.
  | apply batch failure =>
    obtain ⟨rfl, nonempty⟩ := owes
    refine ⟨applied, applied ++ batch, claimed, wf, ?_, ⟨batch, rfl, rfl⟩, silent, ?_, waiting,
      keys, inRound⟩
    · exact heard_eq.trans (List.append_nil _).symm
    · rw [← HopTable.applyAny_append _ _ nonempty, ← table]
      rfl
  | settle rounds failure =>
    obtain ⟨last, rfl, rfl⟩ := owes
    refine ⟨settled ++ last, settled ++ last, claimed, wf.settle _, ?_,
      Listener.owes_closeBatch _ [] failure, silent, table, ?_, keys, fun r => ?_⟩
    · rw [Listener.batch_closeBatch]
      exact heard_eq
    · exact waiting.trans (.of_eq (congrArg _ (Outstanding.settle_waiting ..).symm))
    · have both : resolvedRounds (settled ++ last) =
          resolvedRounds settled ++ resolvedRounds last := List.filterMap_append
      refine (wf.settle_inRound _ r).trans ?_
      rw [inRound r, both, List.count_append, Nat.sub_sub]

/-! ## Errors -/

/-- The listener knows how many errors there are at the end of its reads, and fails at the
fiftieth. -/
structure Watches (h : Hearing) : Prop where
  errors : h.listener.errors = trailingErrors h.reads
  packets : h.heard.length = h.reads.countP Read.isPacket
  lasting : h.listener.phase.failure? = none → h.listener.errors < Listener.maxErrors
  failing : ∀ e, h.listener.phase.failure? = some e → h.listener.errors = Listener.maxErrors ∧
    ∃ text, h.reads.getLast? = some (.failed text) ∧ e = .readErrors Listener.maxErrors text
  shut : h.listener.phase = .ended none → h.shared.shutdown = true

theorem watches_new (w : Shared) : Watches ⟨.new, w, [], []⟩ :=
  ⟨rfl, rfl, fun _ => Nat.succ_pos 49, nofun, nofun⟩

/-- Every step keeps the watch. -/
theorem Step.watches (ht : Step setup h h') (hw : Watches h) : Watches h' := by
  obtain ⟨errors_eq, packets, lasting, failing, shut⟩ := hw
  cases ht with
  | rest => exact ⟨errors_eq, packets, lasting, failing, shut⟩
  | leave _ _ _ _ _ down => exact ⟨errors_eq, packets, lasting, failing, fun _ => down⟩
  | look | apply => exact ⟨errors_eq, packets, lasting, failing, nofun⟩
  | settle _ failure =>
    refine ⟨errors_eq, packets, ?_, ?_,
      fun ends => (Listener.closeBatch_ne_ended [] failure ends).elim⟩
    · rw [Listener.failure?_closeBatch]
      exact lasting
    · rw [Listener.failure?_closeBatch]
      exact failing
  | hear batch _ _ _ _ reads _ read packet =>
    have good : read.isError = false := by cases read <;> first | rfl | cases packet
    refine ⟨?_, ?_, fun _ => Nat.succ_pos 49, ?_,
      fun ends => (Listener.addEvent_ne_ended _ _ ends).elim⟩
    · rw [trailingErrors_concat, good]
      rfl
    · rw [List.length_append, List.countP_append, packets]
      simp [packet]
    · intro e he
      rw [Listener.failure?_addEvent] at he
      cases he
  | miss batch =>
    refine ⟨?_, ?_, fun _ => Nat.succ_pos 49, ?_,
      fun ends => (Listener.closeBatch_ne_ended batch none ends).elim⟩
    · rw [trailingErrors_concat]
      rfl
    · rw [List.countP_append, packets]
      rfl
    · intro e he
      rw [Listener.failure?_closeBatch] at he
      cases he
  -- The row of errors grows by one. The fiftieth error ends the listener.
  | fail batch buffer errors _ reads _ text =>
    have before : errors < Listener.maxErrors := lasting rfl
    refine ⟨?_, ?_, ?_, ?_, fun ends => (Listener.closeBatch_ne_ended _ _ ends).elim⟩
    · rw [trailingErrors_concat]
      exact congrArg (· + 1) errors_eq
    · rw [List.countP_append, packets]
      rfl
    · rw [Listener.failure?_closeBatch]
      split
      · exact nofun
      · exact fun _ => Nat.lt_of_not_le ‹_›
    · rw [Listener.failure?_closeBatch]
      intro e he
      split at he
      · have fifty : errors + 1 = Listener.maxErrors := by omega
        obtain rfl := Option.some.inj he
        refine ⟨fifty, text, List.getLast?_concat, by rw [fifty]⟩
      · cases he

/-! ## After a shutdown -/

/-- The steps that a listener takes at most once the session has shut down. -/
def stepsLeft : Listener.Phase → Nat
  | .idle => 1
  | .draining batch => 4 + (Listener.batchSize - batch.length)
  | .applying .. => 3
  | .settling .. => 2
  | .ended _ => 0

theorem stepsLeft_le (p : Listener.Phase) : stepsLeft p ≤ 104 := by
  cases p <;> simp only [stepsLeft, Listener.batchSize] <;> omega

theorem ended_of_stepsLeft {p : Listener.Phase} (h : stepsLeft p = 0) :
    ∃ failure, p = .ended failure := by
  cases p with
  | ended failure => exact ⟨failure, rfl⟩
  | _ => simp only [stepsLeft] at h; omega

theorem stepsLeft_closeBatch_lt (batch : List Event) (failure : Option ListenerError) :
    stepsLeft (Listener.closeBatch batch failure) < 4 := by
  unfold Listener.closeBatch
  split
  · cases failure <;> simp only [stepsLeft] <;> omega
  · exact Nat.lt_succ_self 3

theorem stepsLeft_addEvent_lt (batch : List Event) (e : Event) :
    stepsLeft (Listener.addEvent batch e) < stepsLeft (.draining batch) := by
  simp only [Listener.addEvent]
  split
  · simp only [stepsLeft, List.length_append, List.length_singleton] at *
    omega
  · simp only [stepsLeft]
    omega

/-- Once the session has shut down, every step brings the listener closer to its end. -/
theorem Step.stepsLeft_le (shut : h.shared.shutdown = true) (ht : Step setup h h') :
    h'.shared.shutdown = true ∧
      stepsLeft h'.listener.phase ≤ stepsLeft h.listener.phase - 1 := by
  cases ht with
  | rest _ _ ended =>
    rw [ended]
    exact ⟨shut, Nat.le_refl 0⟩
  | leave => exact ⟨shut, Nat.le_refl 0⟩
  | look _ _ _ _ _ running => exact absurd (shut.symm.trans running) (by decide)
  | hear batch _ _ _ _ _ _ _ _ _ _ _ _ e =>
    exact ⟨shut, Nat.le_sub_one_of_lt (stepsLeft_addEvent_lt batch e)⟩
  | miss batch =>
    exact ⟨shut, (Nat.le_sub_one_of_lt (stepsLeft_closeBatch_lt batch none)).trans
      (Nat.le_sub_of_add_le (by simp only [stepsLeft]; omega))⟩
  | fail batch =>
    exact ⟨shut, (Nat.le_sub_one_of_lt (stepsLeft_closeBatch_lt batch _)).trans
      (Nat.le_sub_of_add_le (by simp only [stepsLeft]; omega))⟩
  | apply => exact ⟨shut, Nat.le_refl 2⟩
  | settle rounds failure =>
    refine ⟨shut, ?_⟩
    cases failure <;> simp [Listener.closeBatch, stepsLeft]

/-- The steps of the listener among some turns. -/
def listens (turns : List Turn) : Nat := turns.countP fun
  | .listen .. => true
  | .shutdown => false

theorem stepsLeft_foldl (setup : Setup) (turns : List Turn) (shut : h.shared.shutdown = true) :
    stepsLeft (turns.foldl (turn setup) h).listener.phase ≤
      stepsLeft h.listener.phase - listens turns := by
  induction turns generalizing h with
  | nil => exact Nat.le_refl _
  | cons t turns ih =>
    rw [List.foldl_cons]
    cases t with
    | shutdown => exact ih (h := h.turn setup .shutdown) rfl
    | listen now read =>
      obtain ⟨still, fewer⟩ := (step_listen setup h now read).stepsLeft_le shut
      have rest := ih still
      have more : listens (.listen now read :: turns) = listens turns + 1 :=
        List.countP_cons_of_pos rfl
      omega

/-- A listener that takes enough steps after a shutdown ends. -/
theorem ended_of_shutdown (setup : Setup) (w : Shared) (turns more : List Turn)
    (enough : 104 ≤ listens more) :
    ∃ failure, (run setup w (turns ++ .shutdown :: more)).listener.phase = .ended failure := by
  rw [run_append, List.foldl_cons]
  have left := stepsLeft_foldl setup more (h := (run setup w turns).turn setup .shutdown) rfl
  have most := stepsLeft_le ((run setup w turns).turn setup .shutdown).listener.phase
  exact ended_of_stepsLeft (by omega)

/-! ## Every packet -/

theorem accounts_run (setup : Setup) {w : Shared} (wf : w.index.WF) (turns : List Turn) :
    ∃ settled applied claimed, Accounts w (run setup w turns) settled applied claimed := by
  refine run_induction
    (P := fun h => ∃ settled applied claimed, Accounts w h settled applied claimed)
    setup w turns ⟨[], [], [], accounts_new wf⟩ ?_ ?_
  · rintro h ⟨settled, applied, claimed, wf, heard, owes, silent, table, waiting, keys, inRound⟩
    exact ⟨settled, applied, claimed, wf, heard, owes, silent, table, waiting, keys, inRound⟩
  · rintro h h' ht ⟨settled, applied, claimed, ha⟩
    exact ht.accounts ha

theorem watches_run (setup : Setup) (w : Shared) (turns : List Turn) :
    Watches (run setup w turns) := by
  refine run_induction setup w turns (watches_new w) ?_ fun _ _ ht hw => ht.watches hw
  rintro h ⟨errors, packets, lasting, failing, -⟩
  exact ⟨errors, packets, lasting, failing, fun _ => rfl⟩

/-- What is settled has been applied before, and what is applied has been heard before. -/
theorem Accounts.in_order {settled applied : List Event} {claimed : List PendingProbe}
    (ha : Accounts w h settled applied claimed) : settled <+: applied ∧ applied <+: h.heard := by
  refine ⟨?_, ha.heard ▸ List.prefix_append ..⟩
  have owes := ha.owes
  cases phase : h.listener.phase with
  | settling rounds failure =>
    rw [phase] at owes
    obtain ⟨last, rfl, -⟩ := owes
    exact List.prefix_append ..
  | applying batch failure =>
    rw [phase] at owes
    exact owes.1 ▸ List.prefix_rfl
  | _ =>
    rw [phase] at owes
    obtain rfl : applied = settled := owes
    exact List.prefix_rfl

/-- A listener has ended, and nothing that it has read or claimed is left behind. -/
structure Completes (w : Shared) (h : Hearing) (failure : Option ListenerError) : Prop where
  /-- Each packet is counted once. -/
  packets : h.shared.table.state.counters.packets =
    w.table.state.counters.packets + h.reads.countP Read.isPacket
  /-- Everything that was heard is in the table, and readers can see it. -/
  table : h.shared.table = w.table.applyAny h.heard
  /-- What was heard resolves the claimed probes, and these are settled. -/
  claimed : ∃ claimed : List PendingProbe,
    w.index.waiting.Perm (claimed ++ h.shared.index.waiting) ∧
    claimed.map (·.key) = resolvedKeys h.heard ∧
    ∀ r, h.shared.index.inRound r = w.index.inRound r - (claimed.map (·.round)).count r
  unsettled : ∀ r, h.shared.index.claimedIn r = w.index.claimedIn r
  fails : failure.isSome = true ↔ ∃ before last, h.reads = before ++ last ∧ last.length = 50 ∧
    ∀ read ∈ last, read.isError = true
  reason : ∀ e, failure = some e →
    ∃ text, h.reads.getLast? = some (.failed text) ∧ e = .readErrors 50 text
  /-- Without a failure it has been shut down. -/
  shut : failure = none → h.shared.shutdown = true

/-- Nothing is in hand at the end. -/
theorem completes_of_ended {settled applied : List Event} {claimed : List PendingProbe}
    {failure : Option ListenerError} (ha : Accounts w h settled applied claimed) (hw : Watches h)
    (ended : h.listener.phase = .ended failure) : Completes w h failure := by
  obtain ⟨wf, heard, owes, silent, table, waiting, keys, inRound⟩ := ha
  rw [ended] at heard owes
  obtain rfl : applied = settled := owes
  -- A listener that has ended holds no batch, so all that it heard has been applied.
  obtain rfl : h.heard = applied := heard.trans (List.append_nil _)
  have rounds : resolvedRounds h.heard = claimed.map (·.round) := by
    rw [resolvedRounds_eq, ← keys, List.map_map]
    rfl
  have failure_eq : h.listener.phase.failure? = failure := by rw [ended]; rfl
  refine ⟨?_, table, ⟨claimed, waiting, keys, fun r => rounds ▸ inRound r⟩, fun r => ?_, ?_,
    fun e he => (hw.failing e (failure_eq.trans he)).2, fun none => hw.shut (none ▸ ended)⟩
  · have counted : h.shared.table.state = h.heard.foldl HopState.apply w.table.state := by
      rw [table, HopTable.applyAny]
      split
      · rename_i empty
        rw [empty]
        rfl
      · rfl
    rw [counted, packets_foldl _ silent, hw.packets]
  · have settled := inRound r
    -- What is not waiting any more was claimed, and what was claimed has been settled.
    have moved := (waiting.map (·.round)).count_eq r
    rw [List.map_append, List.count_append] at moved
    rw [rounds] at settled
    unfold Outstanding.claimedIn
    omega
  · rw [← le_trailingErrors_iff, ← hw.errors]
    cases failure with
    | none =>
      have few := hw.lasting failure_eq
      rw [Listener.maxErrors] at few
      simp only [Option.isSome_none, Bool.false_eq_true, false_iff]
      omega
    | some e =>
      have fifty := (hw.failing e failure_eq).1
      rw [Listener.maxErrors] at fifty
      simp only [Option.isSome_some, true_iff]
      omega

open Outstanding.Account in
/-- Over every index and every table, on any reads and with a shutdown at any moments: what a
listener hears is applied and then settled in the order in which it was heard. Whenever it has
ended, with a failure or without, all packets that it has read are counted, all probes that it has
claimed are applied and settled, and it has failed if and only if its last fifty reads were errors;
else it has been shut down. After a shutdown it ends within a bounded number of steps. -/
theorem accounts_for_every_packet (setup : Setup) (flows : UInt16)
    (calls : List Outstanding.Call) (table : HopTable) (stop shutdown : Bool) (turns : List Turn) :
    let w : Shared := ⟨indexAfter flows calls, table, stop, shutdown⟩
    (∃ settled applied claimed, Accounts w (run setup w turns) settled applied claimed ∧
      settled <+: applied ∧ applied <+: (run setup w turns).heard) ∧
    (∀ failure, (run setup w turns).listener.phase = .ended failure →
      Completes w (run setup w turns) failure) ∧
    ∀ more, 104 ≤ listens more →
      ∃ failure, (run setup w (turns ++ .shutdown :: more)).listener.phase = .ended failure := by
  intro w
  have wf : w.index.WF := (wf_indexAfter flows calls).1
  obtain ⟨settled, applied, claimed, ha⟩ := accounts_run setup wf turns
  exact ⟨⟨settled, applied, claimed, ha, ha.in_order⟩,
    fun failure ended => completes_of_ended ha (watches_run setup w turns) ended,
    fun more enough => ended_of_shutdown setup w turns more enough⟩

end Hearing

end Session

end FlowTrace
