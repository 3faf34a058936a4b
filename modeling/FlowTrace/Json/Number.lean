import FlowTrace.Decimal.Shortest

/-!
# Numbers in JSON

* `floatText`: a double in the fewest digits that read back. Values from `1e-5` up to `1e16` are
  written with a point, all others with an exponent that always has a sign.
* `NumberText`: the parts of a number as they stand in a text; `NumberText.float?` is its value as a
  double, reckoned from at most 64 bits of digits with one multiplication or division by a power
  of ten.
-/

namespace FlowTrace.Json

open Decimal

/-- The text of a decimal with digits `s`, where the point stands behind `point` digits. -/
def scientificText (s : List Char) (point : Int) : List Char :=
  let n : Int := s.length
  if -5 < point ∧ point ≤ 0 then
    ['0', '.'] ++ List.replicate (-point).toNat '0' ++ s
  else if 0 < point ∧ point ≤ 16 then
    if n ≤ point then s ++ List.replicate (point - n).toNat '0' ++ ['.', '0']
    else s.take point.toNat ++ ['.'] ++ s.drop point.toNat
  else
    let e := point - 1
    let mantissa := if s.length ≤ 1 then s else s.take 1 ++ ['.'] ++ s.drop 1
    mantissa ++ ['e', if e < 0 then '-' else '+'] ++ Nat.toDigits 10 e.natAbs

/-- A double as a JSON number; what is not a number is `null`. -/
def floatText (x : Float) : String :=
  match Binary64.ofFloat x with
  | .finite negative significand exponent =>
    let body :=
      if significand = 0 then ['0', '.', '0']
      else
        let d := shortest significand exponent
        let digits := Nat.toDigits 10 d.digits
        scientificText digits (d.exponent + digits.length)
    String.ofList (if negative then '-' :: body else body)
  | _ => "null"

/-- The parts of a number. -/
structure NumberText where
  negative : Bool
  /-- The digits in front of the point. -/
  whole : List Nat
  /-- The digits behind the point, if there is one. -/
  fraction : Option (List Nat)
  /-- The exponent, if there is one. -/
  exponent : Option Int
  deriving DecidableEq, Repr

namespace NumberText

/-- Takes digits into a significand while it fits in 64 bits; gives it and the digits left over. -/
def take64 : Nat → List Nat → Nat × List Nat
  | significand, [] => (significand, [])
  | significand, d :: rest =>
    if significand * 10 + d < 18446744073709551616 then take64 (significand * 10 + d) rest
    else (significand, d :: rest)

/-- The double nearest to `10 ^ n`. -/
def power10 (n : Nat) : Float := Binary64.ofNat (Nat.pow 10 n)

/-- Divides by `1e308` until the exponent is in the table of powers. -/
def scaleDown : (steps : Nat) → Float → Nat → Float
  | 0, _, _ => 0
  | steps + 1, x, places =>
    if places ≤ 308 then x / power10 places else scaleDown steps (x / power10 308) (places - 308)

/-- `significand * 10 ^ exponent` in double arithmetic, unless it is too large. -/
def scale? (significand : Nat) (exponent : Int) : Option Float :=
  let x := Binary64.ofNat significand
  if exponent < 0 then some (scaleDown 4 x exponent.natAbs)
  else if 308 < exponent then if significand = 0 then some 0 else none
  else
    let y := x * power10 exponent.toNat
    if y == 1.0 / 0.0 then none else some y

/-- The whole number in the text, if it has neither point nor exponent and fits in 64 bits. A zero
with a sign is not whole. -/
def integer? (n : NumberText) : Option Int :=
  if n.fraction.isSome ∨ n.exponent.isSome then none
  else
    let (value, rest) := take64 0 n.whole
    if ¬ rest.isEmpty then none
    else if ¬ n.negative then some value
    else if value = 0 ∨ 9223372036854775808 < value then none
    else some (-(value : Int))

/-- The value of the text as a double, unless it is too large. -/
def float? (n : NumberText) : Option Float :=
  let (wholePart, left) := take64 0 n.whole
  let (significand, taken) :=
    match n.fraction with
    | none => (wholePart, 0)
    | some digits =>
      let (s, rest) := take64 wholePart digits
      (s, digits.length - rest.length)
  let exponent : Int := (left.length : Int) - taken + n.exponent.getD 0
  (scale? significand exponent).map fun x => if n.negative then -x else x

end NumberText

end FlowTrace.Json
