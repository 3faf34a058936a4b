import FlowTrace.Decimal.Binary64

/-!
# The fewest digits that read back

`shortest m e` gives the decimal with the fewest digits among those that round to the double
`m * 2 ^ e`, and of these the nearest to it. For each number of digits, from one to seventeen, the
two neighbours of the value on that decimal grid are tried; if any decimal of that length lies in
the interval that rounds to the double, one of these two does.
-/

namespace FlowTrace.Decimal

/-- The decimal `digits * 10 ^ exponent`. -/
structure Scientific where
  digits : Nat
  exponent : Int
  deriving DecidableEq, Repr

/-- A double's exact value and the interval of numbers that round to it, all over one denominator.
-/
structure Neighbourhood where
  low : Nat
  value : Nat
  high : Nat
  scale : Nat
  /-- Both ends round to the double as well. -/
  closed : Bool

namespace Neighbourhood

/-- The neighbourhood of `m * 2 ^ e`. Below a power of two the gap is half as wide. -/
def ofDouble (m : Nat) (e : Int) : Neighbourhood :=
  let up := if 0 ≤ e then Nat.pow 2 e.toNat else 1
  let down := if 0 ≤ e then 1 else Nat.pow 2 (-e).toNat
  let narrow := m = Binary64.unit ∧ e > -1074
  { low := (4 * m - if narrow then 1 else 2) * up
    value := 4 * m * up
    high := (4 * m + 2) * up
    scale := 4 * down
    closed := m % 2 = 0 }

/-- The decimal lies in the neighbourhood. -/
def holds (n : Neighbourhood) (d : Scientific) : Bool :=
  let x :=
    if 0 ≤ d.exponent then d.digits * Nat.pow 10 d.exponent.toNat * n.scale
    else d.digits * n.scale
  let by10 := if 0 ≤ d.exponent then 1 else Nat.pow 10 (-d.exponent).toNat
  if n.closed then n.low * by10 ≤ x && x ≤ n.high * by10
  else n.low * by10 < x && x < n.high * by10

/-- The value rounded down to a multiple of `10 ^ exponent`, and whether the next multiple is
nearer. A value half-way goes to the even one. -/
def cut (n : Neighbourhood) (exponent : Int) : Nat × Bool :=
  let num := if 0 ≤ exponent then n.value else n.value * Nat.pow 10 (-exponent).toNat
  let den := if 0 ≤ exponent then n.scale * Nat.pow 10 exponent.toNat else n.scale
  let q := num / den
  let r := num % den
  (q, den < 2 * r || (den = 2 * r && q % 2 = 1))

/-- The nearest decimal on the grid of `10 ^ exponent` that lies in the neighbourhood. -/
def onGrid (n : Neighbourhood) (exponent : Int) : Option Scientific :=
  let (q, upNearer) := n.cut exponent
  let below : Scientific := ⟨q, exponent⟩
  let above : Scientific := ⟨q + 1, exponent⟩
  let (first, second) := if upNearer then (above, below) else (below, above)
  if n.holds first then some first else if n.holds second then some second else none

/-- The number of decimal digits in front of the point, zero or less for a value below one tenth. -/
def magnitude (n : Neighbourhood) : Int :=
  if n.scale ≤ n.value then (Nat.toDigits 10 (n.value / n.scale)).length
  else
    let inverse := n.scale / n.value
    let digits := (Nat.toDigits 10 inverse).length
    if Nat.pow 10 (digits - 1) * n.value ≥ n.scale then 2 - digits else 1 - digits

end Neighbourhood

/-- The digits without zeros at the end. -/
def Scientific.trim : Nat → Scientific → Scientific
  | 0, d => d
  | fuel + 1, d =>
    if d.digits ≠ 0 ∧ d.digits % 10 = 0 then trim fuel ⟨d.digits / 10, d.exponent + 1⟩ else d

/-- The shortest decimal that reads back as `m * 2 ^ e`, for a positive `m`. -/
def shortest (m : Nat) (e : Int) : Scientific :=
  let n := Neighbourhood.ofDouble m e
  let top := n.magnitude
  let found := (List.range 17).findSome? fun (k : Nat) => n.onGrid (top - ((k : Nat) + 1 : Nat))
  (found.getD ⟨0, 0⟩).trim 20

end FlowTrace.Decimal
