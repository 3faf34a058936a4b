import FlowTrace.CommandLine.Arguments
import FlowTrace.Proofs.Duration

/-!
# From checked arguments to a configuration

Arguments that pass their check may still fault on the way to a configuration: the check keeps NaN,
the infinities and negative numbers from becoming spans, but not numbers of seconds from two to the
power of 64 on (`Arguments.startsUp_iff`). With both numbers below it there is always a
configuration that passes its own check and has a drain deadline, or a reason why not.
-/

namespace FlowTrace.CommandLine.Arguments

open Decimal Decimal.Binary64

variable {a : Arguments}

/-- There is a configuration, sound and with an end of listening, or else a reason why not. -/
def StartsUp (a : Arguments) (target : Address) (identifierBase : UInt16) : Prop :=
  ∃ r, a.toConfig target identifierBase = .ok r ∧
    ∀ c, r = .ok c → c.check = .ok () ∧ ∃ d, c.drainDeadline = .ok d

/-- Protocol and algorithm go by names that exist. -/
def IsNamed (a : Arguments) : Prop :=
  (∃ p, Protocol.ofText a.protocol = .ok p) ∧ ∃ m, Multipath.ofText a.multipath = .ok m

/-- The word of a protocol and that of an algorithm are such names. -/
theorem isNamed_of_words {p : Protocol} {m : Multipath} (hp : a.protocol = p.word)
    (hm : a.multipath = m.word) : a.IsNamed := by
  refine ⟨⟨p, ?_⟩, m, ?_⟩
  · rw [hp]
    cases p <;> cbv
  · rw [hm]
    cases m <;> cbv

/-! ## What the check says -/

/-- Both numbers of seconds are at least zero. -/
theorem zero_le_of_check (h : a.check = .ok ()) : 0 ≤ a.interval ∧ 0 ≤ a.timeout := by
  simp only [check] at h
  split at h
  · cases h
  split at h
  · cases h
  next hinterval =>
  split at h
  · cases h
  next htimeout =>
  simp only [Bool.or_eq_true, Bool.not_eq_true', decide_eq_true_eq, not_or,
    Bool.not_eq_false] at hinterval htimeout
  exact ⟨zero_le_of_not_lt hinterval.1 hinterval.2,
    zero_le_of_not_lt htimeout.1 (mt le_of_lt htimeout.2)⟩

/-- Checked seconds are a span if they are below two to the power of 64. -/
theorem isSpan_iff_of_check (h : a.check = .ok ()) :
    (Duration.IsSpan a.interval ↔ a.interval < 18446744073709551616.0) ∧
      (Duration.IsSpan a.timeout ↔ a.timeout < 18446744073709551616.0) :=
  have hz := zero_le_of_check h
  ⟨and_iff_right hz.1, and_iff_right hz.2⟩

/-! ## What comes of the seconds -/

/-- Zero seconds ask for no gap, and would be a span. -/
theorem exists_cadence (h : Duration.IsSpan a.interval) : ∃ c, a.cadence = .ok c := by
  rw [cadence]
  split
  · exact ⟨_, rfl⟩
  · obtain ⟨d, hd, -⟩ := Duration.exists_ofSeconds h
    exact ⟨.minInterval d, by rw [hd]; rfl⟩

theorem cadence_of_not_isSpan (h : ¬ Duration.IsSpan a.interval) :
    a.cadence = .error .spanOutOfRange := by
  have hzero : ¬ (a.interval == 0) = true := fun hz => h (Duration.isSpan_of_beq_zero hz)
  rw [cadence, if_neg hzero, Duration.ofSeconds_of_not_isSpan h]
  rfl

/-- Without the names there is a refusal before any seconds are read. -/
theorem toConfig_of_not_isNamed (h : ¬ a.IsNamed) (target : Address) (identifierBase : UInt16) :
    ∃ e, a.toConfig target identifierBase = .ok (.error e) := by
  cases hp : Protocol.ofText a.protocol with
  | error e => exact ⟨e, by rw [toConfig, hp]⟩
  | ok p =>
    cases hm : Multipath.ofText a.multipath with
    | error e => exact ⟨e, by rw [toConfig, hp, hm]⟩
    | ok m => exact absurd ⟨⟨p, hp⟩, m, hm⟩ h

/-- With the names it is for the configuration's own check to refuse or accept. -/
theorem toConfig_of_isNamed (h : a.IsNamed) (target : Address) (identifierBase : UInt16) :
    ∃ build : Duration → Cadence → Config,
      (∀ d c, (build d c).timeout = d ∧ (build d c).drainGrace = .ofMillis 500) ∧
        a.toConfig target identifierBase = (do
          let timeout ← Duration.ofSeconds a.timeout
          let cadence ← a.cadence
          return (build timeout cadence).check.map fun _ => build timeout cadence) := by
  obtain ⟨⟨p, hp⟩, m, hm⟩ := h
  rw [toConfig, hp, hm]
  exact ⟨_, fun d c => ⟨rfl, rfl⟩, rfl⟩

/-! ## Starting up -/

variable (target : Address) (identifierBase : UInt16)

theorem startsUp_of_not_isNamed (h : ¬ a.IsNamed) : a.StartsUp target identifierBase := by
  obtain ⟨e, he⟩ := toConfig_of_not_isNamed h target identifierBase
  exact ⟨.error e, he, nofun⟩

/-- The timeout is at least half an hour short of the bound, which leaves room for the grace. -/
theorem startsUp_of_isSpan (hn : a.IsNamed) (ht : Duration.IsSpan a.timeout)
    (hi : Duration.IsSpan a.interval) : a.StartsUp target identifierBase := by
  obtain ⟨build, hbuild, htoConfig⟩ := toConfig_of_isNamed hn target identifierBase
  obtain ⟨d, hd, hle⟩ := Duration.exists_ofSeconds ht
  obtain ⟨g, hg⟩ := exists_cadence hi
  refine ⟨(build d g).check.map fun _ => build d g, ?_, fun c hc => ?_⟩
  · rw [htoConfig, hd, hg]
    rfl
  cases hcheck : (build d g).check with
  | error e => rw [hcheck] at hc; cases hc
  | ok u =>
    rw [hcheck] at hc
    cases hc
    refine ⟨hcheck, ?_⟩
    rw [Config.drainDeadline, (hbuild d g).1, (hbuild d g).2]
    exact Duration.exists_add hle (by decide)

/-- The timeout is read first, but both numbers fault alike. -/
theorem toConfig_of_not_isSpan (hn : a.IsNamed)
    (h : ¬ (Duration.IsSpan a.timeout ∧ Duration.IsSpan a.interval)) :
    a.toConfig target identifierBase = .error .spanOutOfRange := by
  obtain ⟨build, -, htoConfig⟩ := toConfig_of_isNamed hn target identifierBase
  rw [htoConfig]
  by_cases ht : Duration.IsSpan a.timeout
  · obtain ⟨d, hd, -⟩ := Duration.exists_ofSeconds ht
    rw [hd, cadence_of_not_isSpan fun hi => h ⟨ht, hi⟩]
    rfl
  · rw [Duration.ofSeconds_of_not_isSpan ht]
    rfl

/-- Checked arguments start up, unless their names exist and one of their numbers of seconds is too
large: this is the fault that the check leaves. -/
theorem startsUp_iff (h : a.check = .ok ()) (target : Address) (identifierBase : UInt16) :
    (a.StartsUp target identifierBase ↔
      (a.IsNamed →
        a.timeout < 18446744073709551616.0 ∧ a.interval < 18446744073709551616.0)) ∧
      (¬ a.StartsUp target identifierBase →
        a.toConfig target identifierBase = .error .spanOutOfRange) := by
  obtain ⟨hinterval, htimeout⟩ := isSpan_iff_of_check h
  rw [← hinterval, ← htimeout]
  by_cases hn : a.IsNamed
  · by_cases hs : Duration.IsSpan a.timeout ∧ Duration.IsSpan a.interval
    · have hup := startsUp_of_isSpan target identifierBase hn hs.1 hs.2
      exact ⟨iff_of_true hup fun _ => hs, fun hno => absurd hup hno⟩
    · have hfault := toConfig_of_not_isSpan target identifierBase hn hs
      have hno : ¬ a.StartsUp target identifierBase := by
        rintro ⟨r, hr, -⟩
        rw [hfault] at hr
        cases hr
      exact ⟨iff_of_false hno fun hiff => hs (hiff hn), fun _ => hfault⟩
  · have hup := startsUp_of_not_isNamed target identifierBase hn
    exact ⟨iff_of_true hup fun hn' => absurd hn' hn, fun hno => absurd hup hno⟩

/-- Nothing is asked for but the host. -/
def hostOnly : Arguments where
  host := "host"

/-- Seconds that the check accepts, though no span holds them. -/
def longInterval : Arguments where
  host := "host"
  interval := 100000000000000000000.0

/-- The usual numbers of seconds are far below the bound. -/
theorem startsUp_hostOnly :
    hostOnly.check = .ok () ∧ hostOnly.StartsUp (.ofOctets4 192 0 2 1) 16 :=
  ⟨rfl, (startsUp_iff rfl (.ofOctets4 192 0 2 1) 16).1.mpr fun _ => by decide +kernel⟩

/-- One interval above it is enough to fault. -/
theorem not_startsUp_longInterval :
    ¬ ∀ (a : Arguments) (target : Address) (identifierBase : UInt16),
      a.check = .ok () → a.StartsUp target identifierBase := by
  intro hall
  obtain ⟨r, hr, -⟩ := hall longInterval (.ofOctets4 192 0 2 1) 16 rfl
  have named : longInterval.IsNamed := isNamed_of_words (p := .icmp) (m := .paris) rfl rfl
  rw [toConfig_of_not_isSpan _ _ named (by decide +kernel)] at hr
  cases hr

end FlowTrace.CommandLine.Arguments
