import FlowTrace.Time
import Mathlib

/-!
# Seconds as a double, and the spans they are

A number of seconds is a span exactly if it is at least zero and below two to the power of 64
(`Duration.IsSpan`); NaN and the infinities are not.

* `Binary64.ofFloat_eq_ofUnpacked`: taking a double apart bit by bit gives the number that its
  comparisons and its arithmetic see.
* `Duration.exists_ofSeconds`, `Duration.ofSeconds_of_not_isSpan`: reading seconds gives a span
  for these numbers and the one fault there is for all others.
* `Duration.exists_add`: doubles are sparse below the bound, so the longest span that a double
  gives leaves room for another half hour.
-/

namespace FlowTrace

namespace Decimal.Binary64

open Float.Model (UnpackedFloat Format)
open Float.Model.UnpackedFloat (Sign unpack unpackSign unpackExponent unpackMantissa)

/-! ## The parts of a double -/

/-- The number an unpacked double stands for. -/
def ofUnpacked : UnpackedFloat → Binary64
  | .infinity s => .infinite (s == .negative)
  | .notANumber => .notANumber
  | .zero s => .finite (s == .negative) 0 (-1074)
  | .finite s m e _ => .finite (s == .negative) m e

section

variable (b : BitVec Format.binary64.numBits)

theorem toNat_unpackMantissa : (unpackMantissa b).toNat = b.toNat % unit := by
  simp [unpackMantissa, unit]

theorem toNat_unpackExponent : (unpackExponent b).toNat = b.toNat / unit % 2048 := by
  simp [unpackExponent, Nat.shiftRight_eq_div_pow, unit]

theorem isNegative_unpackSign :
    (Sign.ofBitVec (unpackSign b) == .negative) = (b.toNat / 9223372036854775808 == 1) := by
  have hb : b.toNat < 18446744073709551616 := b.isLt
  have hs : unpackSign b = BitVec.ofNat 1 (b.toNat / 9223372036854775808) := by
    apply BitVec.eq_of_toNat_eq
    simp [unpackSign, Nat.shiftRight_eq_div_pow]
  rw [hs]
  obtain h | h : b.toNat / 9223372036854775808 = 0 ∨ b.toNat / 9223372036854775808 = 1 := by omega
  all_goals rw [h]; rfl

/-- What is unpacked depends on the two ends of the range of exponents only. -/
theorem ofUnpacked_unpack :
    ofUnpacked (unpack Format.binary64 b) =
      if (unpackExponent b).toNat = 2047 then
        if (unpackMantissa b).toNat = 0 then
          .infinite (Sign.ofBitVec (unpackSign b) == .negative)
        else .notANumber
      else if (unpackExponent b).toNat = 0 then
        .finite (Sign.ofBitVec (unpackSign b) == .negative) (unpackMantissa b).toNat (-1074)
      else
        .finite (Sign.ofBitVec (unpackSign b) == .negative) (unit + (unpackMantissa b).toNat)
          (((unpackExponent b).toNat : Int) - 1075) := by
  have hall : unpackExponent b = 2047#11 ↔ (unpackExponent b).toNat = 2047 :=
    BitVec.toNat_inj.symm
  have hnone : unpackExponent b = 0#11 ↔ (unpackExponent b).toNat = 0 := BitVec.toNat_inj.symm
  have hempty : unpackMantissa b = 0#52 ↔ (unpackMantissa b).toNat = 0 := BitVec.toNat_inj.symm
  have hunit : (1#1 ++ unpackMantissa b).toNat = unit + (unpackMantissa b).toNat := by
    have hlt := (unpackMantissa b).isLt
    rw [BitVec.toNat_append, Nat.shiftLeft_eq, BitVec.toNat_ofNat]
    exact (Nat.two_pow_add_eq_or_of_lt hlt 1).symm
  by_cases h1 : unpackExponent b = 2047#11
  · by_cases h2 : unpackMantissa b = 0#52
    · simp [unpack, ofUnpacked, h1, h2]
    · simp [unpack, ofUnpacked, h1, h2, mt hempty.mpr h2]
  · by_cases h2 : unpackExponent b = 0#11
    · by_cases h3 : unpackMantissa b = 0#52
      · simp [unpack, ofUnpacked, h2, h3]
      · simp [unpack, ofUnpacked, h2, h3, Format.exponentBias]
    · simp [unpack, ofUnpacked, h1, h2, mt hall.mpr h1, mt hnone.mpr h2, hunit,
        Format.exponentBias]

end

/-- Taking a double apart bit by bit gives the number that its comparisons see. -/
theorem ofFloat_eq_ofUnpacked (x : Float) : ofFloat x = ofUnpacked x.toModel.unpack := by
  rw [Float.Model.unpack, ofUnpacked_unpack, toNat_unpackExponent, toNat_unpackMantissa,
    isNegative_unpackSign]
  rfl

/-- Significands have at most 53 bits, and fewer only at the least exponent. -/
theorem bounds_of_ofFloat {x : Float} {negative : Bool} {significand : Nat} {exponent : Int}
    (h : ofFloat x = .finite negative significand exponent) :
    significand < 2 * unit ∧ (exponent = -1074 ∨ unit ≤ significand) := by
  have hf : x.toBits.toNat % unit < unit := Nat.mod_lt _ (by decide)
  simp only [ofFloat] at h
  split at h
  · split at h <;> cases h
  · split at h <;> cases h <;> omega

/-! ## Comparisons -/

theorem lt_iff (x y : Float) : x < y ↔ x.toModel.unpack.lt y.toModel.unpack = true :=
  decide_eq_true_iff

theorem le_iff (x y : Float) : x ≤ y ↔ x.toModel.unpack.le y.toModel.unpack = true :=
  decide_eq_true_iff

theorem unpack_zero : (0 : Float).toModel.unpack = .zero .positive := rfl

theorem unpack_two64 :
    (18446744073709551616.0 : Float).toModel.unpack = .finite .positive unit 12 (by decide) := rfl

/-- A number that is neither infinite nor NaN is below zero or at least zero. -/
theorem zero_le_of_not_lt {x : Float} (hx : x.isFinite = true) (h : ¬ x < 0) : 0 ≤ x := by
  rw [lt_iff, unpack_zero] at h
  rw [le_iff, unpack_zero]
  change x.toModel.unpack.isFinite = true at hx
  cases hu : x.toModel.unpack with
  | infinity s | notANumber => simp [hu, UnpackedFloat.isFinite] at hx
  | zero s => rfl
  | finite s m e hm =>
    cases s with
    | negative => simp [hu, UnpackedFloat.lt, UnpackedFloat.compare] at h
    | positive => rfl

theorem le_of_lt {x y : Float} (h : x < y) : x ≤ y := by
  rw [lt_iff, UnpackedFloat.lt, beq_iff_eq] at h
  rw [le_iff, UnpackedFloat.le, h]
  rfl

end Decimal.Binary64

namespace Duration

open Decimal Decimal.Binary64
open Float.Model (UnpackedFloat)
open Float.Model.UnpackedFloat (Sign)

/-! ## The spans -/

/-- A number of seconds that is a span. -/
def IsSpan (x : Float) : Prop := 0 ≤ x ∧ x < 18446744073709551616.0

instance (x : Float) : Decidable (IsSpan x) := by unfold IsSpan; infer_instance

/-- A number at least zero whose exponent leaves room below two to the power of 64. -/
def Fits : Binary64 → Prop
  | .finite negative significand exponent => (negative = true → significand = 0) ∧ exponent < 12
  | _ => False

/-- Significands have 53 bits there, so that the exponent alone tells numbers below two to the power
of 64 from the others. -/
theorem isSpan_iff_fits (x : Float) : IsSpan x ↔ Fits (ofFloat x) := by
  rw [IsSpan, lt_iff, le_iff, unpack_zero, unpack_two64, ofFloat_eq_ofUnpacked]
  cases hu : x.toModel.unpack with
  | notANumber => simp [ofUnpacked, Fits, UnpackedFloat.le, UnpackedFloat.compare]
  | infinity s =>
    cases s <;>
      simp [ofUnpacked, Fits, UnpackedFloat.le, UnpackedFloat.lt, UnpackedFloat.compare]
  | zero s =>
    cases s <;>
      simp [ofUnpacked, Fits, UnpackedFloat.le, UnpackedFloat.lt, UnpackedFloat.compare]
  | finite s m e hm =>
    have hb := bounds_of_ofFloat (x := x) (by rw [ofFloat_eq_ofUnpacked, hu]; rfl)
    cases s with
    | negative =>
      have hn : (Sign.negative == Sign.negative) = true := rfl
      simp only [ofUnpacked, Fits, UnpackedFloat.le, UnpackedFloat.compare, hn]
      simp [Nat.ne_of_gt hm]
    | positive =>
      have hp : (Sign.positive == Sign.negative) = false := rfl
      simp only [ofUnpacked, Fits, UnpackedFloat.le, UnpackedFloat.lt, UnpackedFloat.compare, hp]
      have hlt : (compare e 12).then (compare m unit) = .lt ↔ e < 12 := by
        rw [Ordering.then_eq_lt, Int.compare_eq_lt, Nat.compare_eq_lt, Int.compare_eq_eq]
        omega
      simp [hlt]

/-- Both zeros are a span. -/
theorem isSpan_of_beq_zero {x : Float} (h : (x == 0) = true) : IsSpan x := by
  change x.toModel.unpack.beq (0 : Float).toModel.unpack = true at h
  rw [unpack_zero] at h
  rw [IsSpan, lt_iff, le_iff, unpack_zero, unpack_two64]
  cases hu : x.toModel.unpack with
  | zero s => exact ⟨rfl, rfl⟩
  | notANumber => simp [hu, UnpackedFloat.beq, UnpackedFloat.compare] at h
  | infinity s | finite s => cases s <;> simp [hu, UnpackedFloat.beq, UnpackedFloat.compare] at h

/-- The longest span that a double gives: 53 bits ahead of eleven zeros. -/
def longest : Nat := (2 * unit - 1) * 2048 * 1000000000

/-- A quotient is rounded to no more than its numerator. -/
theorem nearestEven_le (num : Nat) {den : Nat} (h : 0 < den) : nearestEven num den ≤ num := by
  have he := (two_mul_error_le num h).1
  refine Nat.le_of_not_lt fun hlt => ?_
  have hm : (num + 1) * den ≤ nearestEven num den * den := Nat.mul_le_mul_right den hlt
  have hn : num ≤ num * den := Nat.le_mul_of_pos_right num h
  rw [Nat.add_mul] at hm
  omega

/-- The nanoseconds of `significand * 2 ^ exponent` seconds, rounded. -/
def nanosOf (significand : Nat) (exponent : Int) : Nat :=
  let exact := inUnits (significand * 1000000000) 1 (-exponent)
  nearestEven exact.1 exact.2

/-- Seconds at least as fine as whole ones round to no more than their significand. -/
theorem nanosOf_le (significand : Nat) {exponent : Int} (h : exponent ≤ 0) :
    nanosOf significand exponent ≤ significand * 1000000000 := by
  rw [nanosOf, inUnits, if_pos (by omega)]
  exact nearestEven_le _ (Nat.mul_pos Nat.one_pos (Nat.two_pow_pos _))

/-- Coarser ones are whole nanoseconds. -/
theorem nanosOf_eq (significand : Nat) {exponent : Int} (h : 0 < exponent) :
    nanosOf significand exponent = significand * 1000000000 * Nat.pow 2 exponent.toNat := by
  rw [nanosOf, inUnits, if_neg (by omega), Int.neg_neg]
  have hone := nearestEven_mul (significand * 1000000000 * Nat.pow 2 exponent.toNat) Nat.one_pos
  rwa [Nat.mul_one] at hone

theorem nanosOf_le_longest {significand : Nat} {exponent : Int} (hs : significand < 2 * unit)
    (he : exponent < 12) : nanosOf significand exponent ≤ longest := by
  have hscaled : significand * 1000000000 * 2048 ≤ longest := by
    unfold longest
    omega
  by_cases h : exponent ≤ 0
  · have := nanosOf_le significand h
    omega
  · rw [nanosOf_eq significand (by omega)]
    have hpow : Nat.pow 2 exponent.toNat ≤ Nat.pow 2 11 :=
      Nat.pow_le_pow_right (by decide) (by omega)
    exact Nat.le_trans (Nat.mul_le_mul_left _ hpow) hscaled

theorem bound_le_nanosOf {significand : Nat} {exponent : Int} (hs : unit ≤ significand)
    (he : 12 ≤ exponent) : bound ≤ nanosOf significand exponent := by
  rw [nanosOf_eq significand (by omega)]
  have hpow : Nat.pow 2 12 ≤ Nat.pow 2 exponent.toNat :=
    Nat.pow_le_pow_right (by decide) (by omega)
  calc bound = unit * 1000000000 * Nat.pow 2 12 := rfl
    _ ≤ significand * 1000000000 * Nat.pow 2 exponent.toNat :=
      Nat.mul_le_mul (Nat.mul_le_mul_right _ hs) hpow

theorem ofSeconds_of_finite {x : Float} {negative : Bool} {significand : Nat} {exponent : Int}
    (h : ofFloat x = .finite negative significand exponent) :
    ofSeconds x =
      if negative = true ∧ significand ≠ 0 then .error .spanOutOfRange
      else if nanosOf significand exponent < bound then .ok ⟨nanosOf significand exponent⟩
      else .error .spanOutOfRange := by
  rw [ofSeconds, h]
  rfl

/-- Seconds that are a span are read, and no span read is longer than the longest. -/
theorem exists_ofSeconds {x : Float} (h : IsSpan x) :
    ∃ d, ofSeconds x = .ok d ∧ d.nanos ≤ longest := by
  rw [isSpan_iff_fits] at h
  cases hx : ofFloat x with
  | notANumber | infinite => rw [hx] at h; exact h.elim
  | finite negative significand exponent =>
    rw [hx] at h
    obtain ⟨hneg, hexp⟩ := h
    have hle := nanosOf_le_longest (bounds_of_ofFloat hx).1 hexp
    have hlt : nanosOf significand exponent < bound := Nat.lt_of_le_of_lt hle (by decide)
    refine ⟨⟨nanosOf significand exponent⟩, ?_, hle⟩
    rw [ofSeconds_of_finite hx, if_neg fun h => h.2 (hneg h.1), if_pos hlt]

/-- All other seconds are the fault. -/
theorem ofSeconds_of_not_isSpan {x : Float} (h : ¬ IsSpan x) :
    ofSeconds x = .error .spanOutOfRange := by
  rw [isSpan_iff_fits] at h
  cases hx : ofFloat x with
  | notANumber | infinite => rw [ofSeconds, hx]
  | finite negative significand exponent =>
    rw [hx] at h
    rw [ofSeconds_of_finite hx]
    by_cases hneg : negative = true ∧ significand ≠ 0
    · exact if_pos hneg
    · have hexp : 12 ≤ exponent := by
        refine Int.not_lt.mp fun hlt => h ⟨fun hn => ?_, hlt⟩
        exact Decidable.not_not.mp fun hs => hneg ⟨hn, hs⟩
      have hs : unit ≤ significand := (bounds_of_ofFloat hx).2.resolve_left (by omega)
      rw [if_neg hneg, if_neg (Nat.not_lt.mpr (bound_le_nanosOf hs hexp))]

/-- The sum with less than 2048 seconds is a span again. -/
theorem exists_add {d e : Duration} (hd : d.nanos ≤ longest) (he : e.nanos < 2048 * 1000000000) :
    ∃ s, d.add e = .ok s := by
  have hsum : d.nanos + e.nanos < bound := by
    unfold longest unit at hd
    unfold bound
    omega
  exact ⟨_, if_pos hsum⟩

end Duration

end FlowTrace
