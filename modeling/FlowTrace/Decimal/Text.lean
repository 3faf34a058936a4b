import FlowTrace.Decimal.Binary64

/-!
# Decimals as text

`fixed places x` rounds the exact value of a double to `places` decimal places, to the even
neighbour on a tie, and writes every place.

`ofText?` reads a decimal as the nearest double: digits with at most one point among or around them,
and perhaps an exponent. `inf`, `infinity` and `nan` are read in any case. All may have a sign.
-/

namespace FlowTrace.Decimal

/-! ## Writing -/

/-- The digits of a whole number, padded with zeros on the left to a width. -/
def zeroPadded (width n : Nat) : String :=
  let digits := Nat.toDigits 10 n
  String.ofList (List.replicate (width - digits.length) '0' ++ digits)

/-- A whole number of units of the last place, with the point put in. -/
def placed (places units : Nat) : String :=
  if places = 0 then toString units
  else toString (units / Nat.pow 10 places) ++ "." ++ zeroPadded places (units % Nat.pow 10 places)

/-- The text of a double with the given number of decimal places. -/
def fixed (places : Nat) (x : Float) : String :=
  match Binary64.ofFloat x with
  | .notANumber => "NaN"
  | .infinite negative => if negative then "-inf" else "inf"
  | .finite negative significand exponent =>
    let scaled := Binary64.inUnits (significand * Nat.pow 10 places) 1 (-exponent)
    let units := nearestEven scaled.1 scaled.2
    (if negative then "-" else "") ++ placed places units

/-! ## Reading -/

/-- A sign in front of a text. -/
def signed : List Char → Bool × List Char
  | '-' :: s => (true, s)
  | '+' :: s => (false, s)
  | s => (false, s)

/-- The number that decimal digits are. -/
def digitsValue (s : List Char) : Nat := s.foldl (fun n c => n * 10 + (c.toNat - 48)) 0

/-- The digits in front of a text. -/
def leadingDigits (s : List Char) : List Char := s.takeWhile (·.isDigit)

/-- An exponent that ends a text; nothing at all stands for zero. -/
def exponent? : List Char → Option Int
  | [] => some 0
  | c :: s =>
    if c = 'e' ∨ c = 'E' then
      let (negative, s) := signed s
      if s.isEmpty ∨ ¬ s.all (·.isDigit) then none
      else some (if negative then -(digitsValue s : Int) else digitsValue s)
    else none

/-- The double nearest to `digits * 10 ^ exponent`. Far outside the range of doubles the power is
not worked out. -/
def scaled (digits : Nat) (exponent : Int) : Float :=
  let magnitude : Int := exponent + (Nat.toDigits 10 digits).length
  if digits = 0 ∨ magnitude < -330 then Float.ofBits 0
  else if 310 < magnitude then 1.0 / 0.0
  else if 0 ≤ exponent then Binary64.nearest (digits * Nat.pow 10 exponent.toNat) 1
  else Binary64.nearest digits (Nat.pow 10 exponent.natAbs)

/-- Digits with a point and an exponent. -/
def unsigned? (s : List Char) : Option Float := do
  let whole := leadingDigits s
  let rest := s.drop whole.length
  let (fraction, rest) :=
    match rest with
    | '.' :: t => (leadingDigits t, t.drop (leadingDigits t).length)
    | _ => ([], rest)
  if whole.isEmpty && fraction.isEmpty then none
  else
    let e ← exponent? rest
    some (scaled (digitsValue (whole ++ fraction)) (e - fraction.length))

/-- The double nearest to a decimal. -/
def ofText? (text : String) : Option Float :=
  let (negative, s) := signed text.toList
  let word := String.ofList (s.map Char.toLower)
  let size :=
    if word = "inf" ∨ word = "infinity" then some (1.0 / 0.0)
    else if word = "nan" then some (0.0 / 0.0)
    else unsigned? s
  size.map fun x => if negative then -x else x

end FlowTrace.Decimal
