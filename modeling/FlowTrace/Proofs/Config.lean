import FlowTrace.Config.Json
import FlowTrace.Proofs.Duration
import FlowTrace.Proofs.Json.Reader

/-!
# Reading configurations

A text holds a configuration, or it is refused (`Config.ReadsCleanly`), unless reading meets seconds
that are not a span: these are the one fault of reading.

* `Reaches`: where reading may stand between two settings, after the start of an object or an array
  and any number of settings that were read.
* `SecondsAt`: where the seconds stand in the value of a key, for the three settings that are spans
  and for the gap of a cadence.
* `yields_member`: a setting faults at such seconds only, and leaves no more text than it was given.
* `yields_run`: so does reading from any place that it reaches.
* `exists_run`: the loops have fuel enough to get to all these places.
* `readsCleanly_iff`: the seconds met decide whether reading faults.
-/

namespace FlowTrace.Config

open Json (Reader Failure)
open Json.Reader

variable {F : Fault → Prop}

/-- Reading gives a configuration or refuses the text. -/
def ReadsCleanly (text : String) : Prop :=
  (∃ c, ofJson text = .ok c) ∨ ofJson text = .error .malformed

/-! ## Values -/

theorem plain_word8 : Plain word8 := fun F s => (plain_whole 256 F s).bind fun _ hp => hp

theorem plain_word16 : Plain word16 := fun F s => (plain_whole 65536 F s).bind fun _ hp => hp

theorem plain_word32 : Plain word32 := fun F s => (plain_whole 4294967296 F s).bind fun _ hp => hp

theorem plain_address : Plain address := by
  intro F s
  refine (plain_string F s).bind fun p hp => ?_
  dsimp only
  split
  · exact hp
  · trivial

theorem yields_named (values : List α) (name : α → String) (text : String) :
    Yields (fun _ => True) F (named values name text) := by
  unfold named
  split <;> trivial

/-- A name by itself has no fault; what comes with a name stands behind it and a colon. -/
theorem yields_choice {plain : String → Except Failure α} {tagged : String → Reader α}
    (s : List Char) (hplain : ∀ name, Yields (fun _ => True) F (plain name))
    (htagged : ∀ name t u v, sign '\x7b' s = .ok t → string t = .ok (name, u) →
      sign ':' u = .ok v → Yields (fun p => p.2.length ≤ v.length) F (tagged name v)) :
    Yields (fun p => p.2.length ≤ s.length) F (choice plain tagged s) := by
  have hs := length_skipBlanks_le s
  unfold choice
  split
  · next t ht =>
    have hopen : sign '\x7b' s = .ok t := by
      rw [sign, ht]
      rfl
    rw [ht, List.length_cons] at hs
    refine (plain_string F t).bind_eq fun p hname hp => ?_
    refine (yields_sign ':' p.2).bind_eq fun v hcolon hv => ?_
    refine (htagged p.1 t p.2 v hopen hname hcolon).bind fun q hq => ?_
    refine (yields_sign '\x7d' q.2).bind fun w hw => ?_
    simp only [Yields, pure, Except.pure]
    omega
  · refine (plain_string F _).bind fun p hp => ?_
    refine (hplain p.1).bind fun a _ => ?_
    exact Nat.le_trans hp hs

theorem plain_oneOf (values : List α) (name : α → String) : Plain (oneOf values name) := by
  intro F s
  refine yields_choice s (yields_named values name) fun tag _ _ v _ _ _ => ?_
  refine (yields_named values name tag).bind fun a _ => ?_
  exact (plain_null F v).bind fun _ hp => hp

/-! ## Seconds -/

/-- Seconds that are not a span stand here. -/
def Unreadable (s : List Char) : Prop :=
  ∃ x rest, Reader.float s = .ok (x, rest) ∧ ¬ Duration.IsSpan x

theorem yields_span (s : List Char) :
    Yields (fun p => p.2.length ≤ s.length) (fun f => f = .spanOutOfRange ∧ Unreadable s)
      (span s) := by
  refine (plain_float _ s).bind_eq fun p hfloat hp => ?_
  by_cases hx : Duration.IsSpan p.1
  · obtain ⟨d, hd, -⟩ := Duration.exists_ofSeconds hx
    dsimp only
    rw [hd]
    exact hp
  · dsimp only
    rw [Duration.ofSeconds_of_not_isSpan hx]
    exact ⟨rfl, p.1, p.2, hfloat, hx⟩

theorem span_of_unreadable {s : List Char} (h : Unreadable s) :
    span s = .error (.fault .spanOutOfRange) := by
  obtain ⟨x, rest, hfloat, hx⟩ := h
  rw [span, hfloat]
  simp only [bind, Except.bind, Duration.ofSeconds_of_not_isSpan hx]
  rfl

/-- Where the gap of a cadence stands. -/
def GapAt (s t : List Char) : Prop :=
  ∃ u v, sign '\x7b' s = .ok u ∧ string u = .ok ("min_interval", v) ∧ sign ':' v = .ok t

theorem yields_cadenceValue (s : List Char) :
    Yields (fun p => p.2.length ≤ s.length)
      (fun f => f = .spanOutOfRange ∧ ∃ t, GapAt s t ∧ Unreadable t) (cadenceValue s) := by
  refine yields_choice s (fun name => ?_) fun name t u v hopen hname hcolon => ?_
  · split <;> trivial
  · split
    · exact (plain_null _ v).bind fun _ hp => hp
    · split
      · next hgap =>
        subst hgap
        refine ((yields_span v).imp_fault fun f hf => ?_).bind fun _ hp => hp
        exact ⟨hf.1, v, ⟨t, u, hopen, hname, hcolon⟩, hf.2⟩
      · trivial

theorem cadenceValue_of_unreadable {s t : List Char} (hgap : GapAt s t) (h : Unreadable t) :
    cadenceValue s = .error (.fault .spanOutOfRange) := by
  obtain ⟨u, v, hopen, hname, hcolon⟩ := hgap
  have hbrace : skipBlanks s = '\x7b' :: u := eq_cons_of_sign hopen
  rw [cadenceValue, choice, hbrace]
  simp only [bind, Except.bind, hname, hcolon, span_of_unreadable h]
  rfl

/-! ## Settings -/

/-- The keys of all settings in order. -/
def keys : List String := (settings {}).map (·.1)

theorem settings_eq (d : Draft) : settings d = keys.map fun key => (key, member d key) := rfl

/-- Where seconds stand in the value of a key, which has none yet. -/
inductive SecondsAt (d : Draft) : String → List Char → List Char → Prop where
  | sendInterval {s : List Char} (h : d.sendInterval = none) : SecondsAt d "send_interval" s s
  | timeout {s : List Char} (h : d.timeout = none) : SecondsAt d "timeout" s s
  | drainGrace {s : List Char} (h : d.drainGrace = none) : SecondsAt d "drain_grace" s s
  | gap {s t : List Char} (h : d.cadence = none) (hgap : GapAt s t) :
    SecondsAt d "round_cadence" s t

theorem yields_once {present : Option α} {value : Reader α} {put : α → Draft} {s : List Char}
    (h : present = none → Yields (fun p => p.2.length ≤ s.length) F (value s)) :
    Yields (fun p => p.2.length ≤ s.length) F (once present value put s) := by
  unfold once
  cases present with
  | some a => trivial
  | none => exact (h rfl).bind fun _ hp => hp

/-- Setting by setting, faults come from seconds. -/
theorem yields_settings (d : Draft) :
    ∀ p ∈ settings d, ∀ s, Yields (fun q => q.2.length ≤ s.length)
      (fun f => f = .spanOutOfRange ∧ ∃ t, SecondsAt d p.1 s t ∧ Unreadable t) (p.2 s) := by
  have seconds (key : String) (s : List Char) (h : SecondsAt d key s s) :
      Yields (fun q => q.2.length ≤ s.length)
        (fun f => f = .spanOutOfRange ∧ ∃ t, SecondsAt d key s t ∧ Unreadable t) (span s) :=
    (yields_span s).imp_fault fun f hf => ⟨hf.1, s, h, hf.2⟩
  simp only [settings, List.forall_mem_cons, List.not_mem_nil, false_implies, implies_true,
    and_true]
  -- one goal for each setting, in order
  refine ⟨?_, ?_, ?_, ?_, ?_, ?_, ?_, ?_, ?_, ?_, ?_, ?_, ?_, ?_, ?_, ?_⟩
  all_goals intro s; refine yields_once fun h => ?_
  · exact plain_address _ s
  · exact plain_oneOf _ _ _ s
  · exact plain_oneOf _ _ _ s
  · exact plain_word16 _ s
  · exact plain_word8 _ s
  · exact seconds _ s (.sendInterval h)
  · exact seconds _ s (.timeout h)
  · exact seconds _ s (.drainGrace h)
  · exact plain_whole _ _ s
  · refine (yields_cadenceValue s).imp_fault fun f hf => ?_
    obtain ⟨hf, t, hgap, ht⟩ := hf
    exact ⟨hf, t, .gap h hgap, ht⟩
  · exact plain_word32.nullable _ s
  · exact plain_word16 _ s
  · exact plain_word16 _ s
  · exact plain_word16 _ s
  · exact plain_oneOf _ _ _ s
  · exact plain_whole _ _ s

/-- What stands for an unknown key is passed over. -/
theorem yields_member (d : Draft) (key : String) (s : List Char) :
    Yields (fun p => p.2.length ≤ s.length)
      (fun f => f = .spanOutOfRange ∧ ∃ t, SecondsAt d key s t ∧ Unreadable t)
      (member d key s) := by
  unfold member
  cases hfind : (settings d).find? (·.1 == key) with
  | none => exact (plain_ignored _ s).bind fun _ hp => hp
  | some p =>
    have hkey : p.1 = key := by simpa using List.find?_some hfind
    rw [← hkey]
    exact yields_settings d p (List.mem_of_find?_eq_some hfind) s

theorem once_of_error {present : Option α} {value : Reader α} (put : α → Draft) {s : List Char}
    {e : Failure} (h : present = none) (hvalue : value s = .error e) :
    once present value put s = .error e := by
  subst h
  rw [once, hvalue]
  rfl

theorem member_of_secondsAt {d : Draft} {key : String} {s t : List Char} (h : SecondsAt d key s t)
    (ht : Unreadable t) : member d key s = .error (.fault .spanOutOfRange) := by
  have hspan := span_of_unreadable ht
  cases h with
  | sendInterval h => exact once_of_error (fun v => { d with sendInterval := some v }) h hspan
  | timeout h => exact once_of_error (fun v => { d with timeout := some v }) h hspan
  | drainGrace h => exact once_of_error (fun v => { d with drainGrace := some v }) h hspan
  | gap h hgap =>
    exact once_of_error (fun v => { d with cadence := some v }) h
      (cadenceValue_of_unreadable hgap ht)

/-! ## Places -/

/-- Where reading stands between two settings. -/
inductive Place where
  /-- In front of a member of an object, or its end. -/
  | inObject (first : Bool)
  /-- In front of the item of an array with an index, or its end. -/
  | inArray (index : Nat)

/-- The key of a member, with the comma in front and the colon behind it. -/
def memberKey (first : Bool) : Reader String := fun s => do
  let t ← comma first s
  let (key, t) ← string t
  let t ← sign ':' t
  return (key, t)

/-- The key that an item goes by, behind the comma in front of it. -/
def itemKey (index : Nat) : Reader String := fun s =>
  match keys[index]? with
  | none => .error .malformed
  | some key => do
    let t ← comma (index == 0) s
    return (key, t)

namespace Place

/-- The place behind a value. -/
def next : Place → Place
  | .inObject _ => .inObject false
  | .inArray index => .inArray (index + 1)

/-- The key of the value that comes next. -/
def key : Place → Reader String
  | .inObject first => fun s => memberKey first (skipBlanks s)
  | .inArray index => itemKey index

/-- The loops from a place on. -/
def run (fuel : Nat) : Place → Draft → Reader Draft
  | .inObject first => membersFrom member fuel first
  | .inArray _ => valuesFrom fuel

/-- The fuel is enough for the members that the text may hold, or is the number of items left. -/
def Fits (fuel : Nat) (s : List Char) : Place → Prop
  | .inObject _ => s.length < fuel
  | .inArray index => index + fuel = settingCount

end Place

theorem membersFrom_of_end {s rest : List Char} (h : skipBlanks s = '\x7d' :: rest) (fuel : Nat)
    (first : Bool) (d : Draft) : membersFrom member (fuel + 1) first d s = .ok (d, rest) := by
  simp only [membersFrom, h]

theorem membersFrom_succ {s : List Char} (h : ∀ rest, skipBlanks s ≠ '\x7d' :: rest)
    (fuel : Nat) (first : Bool) (d : Draft) :
    membersFrom member (fuel + 1) first d s = (do
      let (key, t) ← memberKey first (skipBlanks s)
      let (d, t) ← member d key t
      membersFrom member fuel false d t) := by
  rw [membersFrom]
  split
  · next rest hrest => exact absurd hrest (h rest)
  · cases first <;> simp [memberKey, comma]

theorem valuesFrom_succ {index left : Nat} (h : index + (left + 1) = settingCount) (d : Draft)
    (s : List Char) :
    valuesFrom (left + 1) d s = (do
      let (key, t) ← itemKey index s
      let (d, t) ← member d key t
      valuesFrom left d t) := by
  have hindex : settingCount - (left + 1) = index := by omega
  have hlt : index < keys.length := by
    change index < settingCount
    omega
  rw [valuesFrom, itemKey, hindex, settings_eq, List.getElem?_map, List.getElem?_eq_getElem hlt]
  simp only [Option.map_some, Reader.item, comma]
  by_cases hzero : index = 0 <;> simp [hzero]

/-- A key takes some of the text. -/
theorem yields_memberKey (first : Bool) (s : List Char) :
    Yields (fun p => p.2.length < s.length) F (memberKey first s) := by
  refine (yields_comma first s).bind fun t ht => ?_
  refine (plain_string F t).bind fun p hp => ?_
  refine (yields_sign ':' p.2).bind fun u hu => ?_
  exact Nat.lt_of_lt_of_le hu (Nat.le_trans hp ht)

theorem plain_itemKey (index : Nat) : Plain (itemKey index) := by
  intro F s
  unfold itemKey
  cases keys[index]? with
  | none => trivial
  | some key => exact (yields_comma (index == 0) s).bind fun _ ht => ht

namespace Place

theorem plain_key (p : Place) : Plain p.key := by
  intro F s
  cases p with
  | inObject first =>
    refine (yields_memberKey first _).imp fun q hq => ?_
    exact Nat.le_trans (Nat.le_of_lt hq) (length_skipBlanks_le s)
  | inArray index => exact plain_itemKey index F s

/-- Either the container ends here, or there is a value to read. -/
theorem run_succ {p : Place} {fuel : Nat} {s : List Char} (d : Draft) (h : p.Fits (fuel + 1) s) :
    (p.key s = .error .malformed ∧ ∃ rest, p.run (fuel + 1) d s = .ok (d, rest)) ∨
      p.run (fuel + 1) d s = (do
        let (key, t) ← p.key s
        let (d, u) ← Config.member d key t
        p.next.run fuel d u) := by
  cases p with
  | inObject first =>
    by_cases hend : ∃ rest, skipBlanks s = '\x7d' :: rest
    · obtain ⟨rest, hrest⟩ := hend
      refine .inl ⟨?_, rest, membersFrom_of_end hrest fuel first d⟩
      change memberKey first (skipBlanks s) = _
      rw [hrest]
      cases first <;> rfl
    · exact .inr (membersFrom_succ (fun rest hrest => hend ⟨rest, hrest⟩) fuel first d)
  | inArray index => exact .inr (valuesFrom_succ h d s)

/-- There is no value to read without fuel. -/
theorem run_zero {p : Place} {s : List Char} (d : Draft) (h : p.Fits 0 s) :
    p.key s = .error .malformed ∧ Yields (fun _ => True) F (p.run 0 d s) := by
  cases p with
  | inObject first => exact absurd h (Nat.not_lt_zero _)
  | inArray index =>
    have hkeys : keys[index]? = none := List.getElem?_eq_none (Nat.le_of_eq h.symm)
    refine ⟨by rw [key, itemKey, hkeys], ?_⟩
    exact (yields_sign ']' s).bind fun _ _ => trivial

/-- Behind a key there is fuel to go on with. -/
theorem run_of_key {p : Place} {fuel : Nat} {s t : List Char} {name : String} (d : Draft)
    (h : p.Fits fuel s) (hkey : p.key s = .ok (name, t)) :
    ∃ left, fuel = left + 1 ∧ p.run fuel d s = (do
      let (d, u) ← Config.member d name t
      p.next.run left d u) := by
  cases fuel with
  | zero =>
    rw [(run_zero (F := fun _ => True) d h).1] at hkey
    cases hkey
  | succ left =>
    refine ⟨left, rfl, ?_⟩
    obtain ⟨hend, -⟩ | hstep := run_succ d h
    · rw [hend] at hkey
      cases hkey
    · rw [hstep, hkey]
      rfl

/-- A key takes some of the text of an object, and none of an array. -/
theorem fits_next {p : Place} {fuel : Nat} {s t u : List Char} {name : String}
    (h : p.Fits (fuel + 1) s) (hkey : p.key s = .ok (name, t)) (hu : u.length ≤ t.length) :
    p.next.Fits fuel u := by
  cases p with
  | inObject first =>
    have ht := (yields_memberKey (F := fun _ => True) first _).of_ok hkey
    have hs := length_skipBlanks_le s
    simp only [next, Fits] at h ht ⊢
    omega
  | inArray index =>
    simp only [next, Fits] at h ⊢
    omega

end Place

/-! ## Runs -/

/-- The places that reading a text gets to, with the settings read up to there. -/
inductive Reaches (text : String) : Place → Draft → List Char → Prop where
  | object {s : List Char} (h : sign '\x7b' text.toList = .ok s) :
    Reaches text (.inObject true) {} s
  | array {s : List Char} (h : sign '[' text.toList = .ok s) : Reaches text (.inArray 0) {} s
  | next {p : Place} {d d' : Draft} {s t u : List Char} {name : String} (h : Reaches text p d s)
    (hkey : p.key s = .ok (name, t)) (hvalue : member d name t = .ok (d', u)) :
    Reaches text p.next d' u

/-- Reading meets a number where seconds stand. -/
def MeetsSeconds (text : String) (x : Float) : Prop :=
  ∃ (p : Place) (d : Draft) (name : String) (s t u v : List Char), Reaches text p d s ∧
    p.key s = .ok (name, t) ∧ SecondsAt d name t u ∧ Reader.float u = .ok (x, v)

/-- A fault is that of seconds which reading meets. -/
def Blamed (text : String) (f : Fault) : Prop :=
  f = .spanOutOfRange ∧ ∃ x, MeetsSeconds text x ∧ ¬ Duration.IsSpan x

/-- From every place that it reaches, reading has no other fault. -/
theorem yields_run {text : String} {p : Place} {d : Draft} {s : List Char} {fuel : Nat}
    (hr : Reaches text p d s) (hf : p.Fits fuel s) :
    Yields (fun _ => True) (Blamed text) (p.run fuel d s) := by
  -- on the fuel: every setting that is read leads to a place that is reached with less
  induction fuel generalizing p d s with
  | zero => exact (Place.run_zero d hf).2
  | succ fuel ih =>
    obtain ⟨-, rest, hend⟩ | hstep := Place.run_succ d hf
    · rw [hend]
      trivial
    · rw [hstep]
      refine (Place.plain_key p _ s).bind_eq fun q hkey _ => ?_
      refine ((yields_member d q.1 q.2).imp_fault fun f hfault => ?_).bind_eq
        fun w hvalue hw => ih (.next hr hkey hvalue) (Place.fits_next hf hkey hw)
      obtain ⟨hname, u, hseconds, x, v, hfloat, hx⟩ := hfault
      exact ⟨hname, x, ⟨p, d, q.1, s, q.2, u, v, hr, hkey, hseconds, hfloat⟩, hx⟩

/-- What is left to do behind the loops. -/
def finish (p : Draft × List Char) : Except Failure Config :=
  match p.1.complete? with
  | some c => if (skipBlanks p.2).isEmpty then .ok c else .error .malformed
  | none => .error .malformed

theorem yields_finish (p : Draft × List Char) : Yields (fun _ => True) F (finish p) := by
  unfold finish
  split
  · split <;> trivial
  · trivial

theorem ofJson_of_object {text : String} {s : List Char} (h : sign '\x7b' text.toList = .ok s) :
    ofJson text = Place.run (s.length + 1) (.inObject true) {} s >>= finish := by
  have hsign : sign '\x7b' ('\x7b' :: s) = .ok s := rfl
  simp only [ofJson, ofText, reader, eq_cons_of_sign h, members, hsign, Place.run]
  cases hrun : membersFrom member (s.length + 1) true {} s with
  | error e =>
    simp only [bind, Except.bind, hrun]
    rfl
  | ok p =>
    simp only [bind, Except.bind, hrun, finish]
    cases p.1.complete? <;> rfl

theorem ofJson_of_array {text : String} {s : List Char} (h : sign '[' text.toList = .ok s) :
    ofJson text = Place.run settingCount (.inArray 0) {} s >>= finish := by
  simp only [ofJson, ofText, reader, eq_cons_of_sign h, Place.run]
  cases hrun : valuesFrom settingCount {} s with
  | error e => rfl
  | ok p =>
    simp only [bind, Except.bind, finish]
    cases p.1.complete? <;> rfl

theorem ofJson_of_neither {text : String} (hobject : ∀ s, sign '\x7b' text.toList ≠ .ok s)
    (harray : ∀ s, sign '[' text.toList ≠ .ok s) : ofJson text = .error .malformed := by
  have hbrace : sign '\x7b' (skipBlanks text.toList) = .error .malformed := by
    rw [sign_skipBlanks]
    cases hsign : sign '\x7b' text.toList with
    | ok s => exact absurd hsign (hobject s)
    | error e => rw [(yields_sign '\x7b' text.toList).eq_malformed hsign]
  simp only [ofJson, ofText, reader]
  split
  · next rest hrest => exact absurd (by rw [sign, hrest]; rfl) (harray rest)
  · rw [members, hbrace]
    rfl

/-- The loops get to every place that is reached, so that what goes wrong there goes wrong with the
text. -/
theorem exists_run {text : String} {p : Place} {d : Draft} {s : List Char}
    (hr : Reaches text p d s) :
    ∃ fuel, p.Fits fuel s ∧ ∀ e, p.run fuel d s = .error e → ofJson text = .error e := by
  -- on the way to the place: the fuel that `reader` starts with never runs out on it
  induction hr with
  | @object s h =>
    refine ⟨s.length + 1, Nat.lt_succ_self _, fun e he => ?_⟩
    rw [ofJson_of_object h, he]
    rfl
  | array h =>
    refine ⟨settingCount, Nat.zero_add _, fun e he => ?_⟩
    rw [ofJson_of_array h, he]
    rfl
  | @next p d d' s t u name h hkey hvalue ih =>
    obtain ⟨fuel, hf, hrun⟩ := ih
    obtain ⟨left, rfl, hstep⟩ := Place.run_of_key d hf hkey
    have hu := (yields_member d name t).of_ok hvalue
    refine ⟨left, Place.fits_next hf hkey hu, fun e he => hrun e ?_⟩
    rw [hstep, hvalue]
    exact he

theorem yields_ofJson (text : String) : Yields (fun _ => True) (Blamed text) (ofJson text) := by
  by_cases hobject : ∃ s, sign '\x7b' text.toList = .ok s
  · obtain ⟨s, hs⟩ := hobject
    rw [ofJson_of_object hs]
    exact (yields_run (.object hs) (Nat.lt_succ_self _)).bind fun p _ => yields_finish p
  by_cases harray : ∃ s, sign '[' text.toList = .ok s
  · obtain ⟨s, hs⟩ := harray
    rw [ofJson_of_array hs]
    exact (yields_run (.array hs) (Nat.zero_add _)).bind fun p _ => yields_finish p
  rw [ofJson_of_neither (fun s hs => hobject ⟨s, hs⟩) fun s hs => harray ⟨s, hs⟩]
  trivial

theorem ofJson_of_meetsSeconds {text : String} {x : Float} (h : MeetsSeconds text x)
    (hx : ¬ Duration.IsSpan x) : ofJson text = .error (.fault .spanOutOfRange) := by
  obtain ⟨p, d, name, s, t, u, v, hr, hkey, hseconds, hfloat⟩ := h
  obtain ⟨fuel, hf, hrun⟩ := exists_run hr
  obtain ⟨left, -, hstep⟩ := Place.run_of_key d hf hkey
  have hmember := member_of_secondsAt hseconds ⟨x, v, hfloat, hx⟩
  refine hrun _ ?_
  rw [hstep, hmember]
  rfl

/-- The faults of reading are those of the seconds that it meets. -/
theorem ofJson_eq_fault_iff (text : String) (f : Fault) :
    ofJson text = .error (.fault f) ↔ Blamed text f := by
  constructor
  · intro h
    have hyields := yields_ofJson text
    rw [h] at hyields
    exact hyields
  · rintro ⟨rfl, x, hmeets, hx⟩
    exact ofJson_of_meetsSeconds hmeets hx

/-- The seconds that reading meets decide whether it goes through. -/
theorem readsCleanly_iff (text : String) :
    (ReadsCleanly text ↔ ∀ x, MeetsSeconds text x → Duration.IsSpan x) ∧
      (¬ ReadsCleanly text → ofJson text = .error (.fault .spanOutOfRange)) := by
  by_cases hblamed : Blamed text .spanOutOfRange
  · have hfault := (ofJson_eq_fault_iff text _).mpr hblamed
    obtain ⟨-, x, hmeets, hx⟩ := hblamed
    have hno : ¬ ReadsCleanly text := by
      rintro (⟨c, hc⟩ | hmalformed)
      · rw [hfault] at hc
        cases hc
      · rw [hfault] at hmalformed
        cases hmalformed
    exact ⟨iff_of_false hno fun hspans => hx (hspans x hmeets), fun _ => hfault⟩
  · have hclean : ReadsCleanly text := by
      match hof : ofJson text with
      | .ok c => exact .inl ⟨c, hof⟩
      | .error .malformed => exact .inr hof
      | .error (.fault f) =>
        have hf := (ofJson_eq_fault_iff text f).mp hof
        exact absurd (hf.1 ▸ hf) hblamed
    refine ⟨iff_of_true hclean fun x hmeets => ?_, fun hno => absurd hclean hno⟩
    exact Decidable.byContradiction fun hx => hblamed ⟨rfl, x, hmeets, hx⟩

/-- A negative timeout, and nothing else. -/
theorem not_readsCleanly_negativeTimeout : ¬ ∀ text, ReadsCleanly text := by
  intro hall
  have hfault : ofJson "\x7b\"timeout\":-1\x7d" = .error (.fault .spanOutOfRange) := rfl
  obtain ⟨c, hc⟩ | hmalformed := hall "\x7b\"timeout\":-1\x7d"
  · rw [hfault] at hc
    cases hc
  · rw [hfault] at hmalformed
    cases hmalformed

end FlowTrace.Config
