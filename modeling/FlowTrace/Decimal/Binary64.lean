/-!
# Doubles as exact numbers

`nearestEven num den` is the whole number nearest to `num / den`; of two that are equally near it is
the even one. `two_mul_error_le` bounds its error by half a unit.

A double is taken apart into a sign, a significand and a binary exponent (`Binary64.ofFloat`), and
the double nearest to a quotient of whole numbers is put together from its bits
(`Binary64.nearest`).
-/

namespace FlowTrace.Decimal

/-! ## Rounding a quotient -/

/-- The whole number nearest to `num / den`, the even one on a tie. -/
def nearestEven (num den : Nat) : Nat :=
  let q := num / den
  let r := num % den
  if 2 * r < den ∨ (2 * r = den ∧ q % 2 = 0) then q else q + 1

/-- The rounded quotient is at most half a unit away. -/
theorem two_mul_error_le (num : Nat) {den : Nat} (h : 0 < den) :
    2 * (nearestEven num den * den) ≤ 2 * num + den ∧
      2 * num ≤ 2 * (nearestEven num den * den) + den := by
  have hr := Nat.mod_lt num h
  have hd := Nat.div_add_mod num den
  have hc := Nat.mul_comm den (num / den)
  simp only [nearestEven]
  split
  · omega
  · rw [Nat.add_mul]; omega

/-- A multiple of the divisor is its own rounding. -/
theorem nearestEven_mul (q : Nat) {den : Nat} (h : 0 < den) : nearestEven (q * den) den = q := by
  simp [nearestEven, Nat.mul_div_cancel q h, h]

/-! ## Doubles -/

/-- What a double stands for: `significand * 2 ^ exponent`, with a sign. -/
inductive Binary64 where
  | finite (negative : Bool) (significand : Nat) (exponent : Int)
  | infinite (negative : Bool)
  | notANumber
  deriving DecidableEq, Repr

namespace Binary64

/-- The least significand of a normal double: two to the power of 52. -/
def unit : Nat := 4503599627370496

/-- The number a double stands for. -/
def ofFloat (x : Float) : Binary64 :=
  let bits : Nat := x.toBits.toNat
  let negative := bits / 9223372036854775808 == 1
  let biased : Nat := bits / unit % 2048
  let fraction : Nat := bits % unit
  if biased = 2047 then
    if fraction = 0 then .infinite negative else .notANumber
  else if biased = 0 then .finite negative fraction (-1074)
  else .finite negative (unit + fraction) ((biased : Int) - 1075)

/-- `num / den` in units of `2 ^ e`, as a numerator and a denominator. -/
def inUnits (num den : Nat) (e : Int) : Nat × Nat :=
  if 0 ≤ e then (num, den * Nat.pow 2 e.toNat) else (num * Nat.pow 2 (-e).toNat, den)

/-- The double with a significand below `2 ^ 53` and an exponent of at least -1074. -/
def compose (significand : Nat) (exponent : Int) : Float :=
  if exponent > 971 then Float.ofBits (UInt64.ofNat (2047 * unit))
  else if significand < unit then Float.ofBits (UInt64.ofNat significand)
  else Float.ofBits (UInt64.ofNat ((exponent + 1075).toNat * unit + (significand - unit)))

/-- The double nearest to `num / den`, the one with an even significand on a tie. -/
def nearest (num den : Nat) : Float :=
  if num = 0 then Float.ofBits 0
  else
    let low : Int := max ((Nat.log2 num : Int) - Nat.log2 den - 53) (-1074)
    let coarse := inUnits num den low
    let place := if coarse.1 / coarse.2 < 2 * unit then low else low + 1
    let exact := inUnits num den place
    let significand := nearestEven exact.1 exact.2
    if significand = 2 * unit then compose unit (place + 1) else compose significand place

/-- The double nearest to a whole number. -/
def ofNat (n : Nat) : Float := nearest n 1

end Binary64

end FlowTrace.Decimal
