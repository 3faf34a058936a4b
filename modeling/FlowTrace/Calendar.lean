/-!
# Calendar dates

Moments are counted in microseconds from the beginning of 1970 in UTC (`Timestamp`).
`Timestamp.civil` gives date and time of day in the Gregorian calendar, extended to all years.

* `Timestamp.plain`: date and time to the second, for people.
* `Timestamp.precise`: the form of RFC 3339 with as many digits of a second as it needs: none, three
  or six.
-/

namespace FlowTrace

/-- Microseconds from the beginning of 1970 in UTC. -/
structure Timestamp where
  micros : Int
  deriving DecidableEq, Repr

/-- A date. -/
structure Date where
  year : Int
  month : Nat
  day : Nat
  deriving DecidableEq, Repr

/-- The date so many days from the beginning of 1970. Years are taken to begin in March, so that the
leap day is the last one; 400 of them have 146097 days. -/
def Date.ofDays (days : Int) : Date :=
  let shifted := days + 719468
  let era := Int.fdiv shifted 146097
  let dayOfEra := (Int.fmod shifted 146097).toNat
  let yearOfEra := (dayOfEra - dayOfEra / 1460 + dayOfEra / 36524 - dayOfEra / 146096) / 365
  let dayOfYear := dayOfEra - (365 * yearOfEra + yearOfEra / 4 - yearOfEra / 100)
  let marchMonth := (5 * dayOfYear + 2) / 153
  let month := if marchMonth < 10 then marchMonth + 3 else marchMonth - 9
  { year := (yearOfEra : Int) + era * 400 + (if month ≤ 2 then 1 else 0)
    month := month
    day := dayOfYear - (153 * marchMonth + 2) / 5 + 1 }

/-- A number with zeros in front up to a width. -/
def zeroFilled (width n : Nat) : String :=
  let digits := toString n
  String.ofList (List.replicate (width - digits.length) '0') ++ digits

/-- Four digits; years outside of those carry a sign. -/
def yearText (year : Int) : String :=
  if year < 0 then "-" ++ zeroFilled 4 year.natAbs
  else if year ≤ 9999 then zeroFilled 4 year.natAbs
  else "+" ++ toString year.natAbs

def Date.text (d : Date) : String :=
  yearText d.year ++ "-" ++ zeroFilled 2 d.month ++ "-" ++ zeroFilled 2 d.day

namespace Timestamp

/-- The whole seconds, and the microseconds beyond them. -/
def split (t : Timestamp) : Int × Nat :=
  (Int.fdiv t.micros 1000000, (Int.fmod t.micros 1000000).toNat)

def date (t : Timestamp) : Date := Date.ofDays (Int.fdiv t.split.1 86400)

/-- Hours, minutes and seconds with colons. -/
def timeText (t : Timestamp) : String :=
  let second := (Int.fmod t.split.1 86400).toNat
  zeroFilled 2 (second / 3600) ++ ":" ++ zeroFilled 2 (second / 60 % 60) ++ ":"
    ++ zeroFilled 2 (second % 60)

/-- Date and time to the second. -/
def plain (t : Timestamp) : String := t.date.text ++ " " ++ t.timeText ++ " UTC"

/-- The digits of a second that are needed. -/
def fractionText (micros : Nat) : String :=
  if micros = 0 then ""
  else if micros % 1000 = 0 then "." ++ zeroFilled 3 (micros / 1000)
  else "." ++ zeroFilled 6 micros

/-- The form of RFC 3339. -/
def precise (t : Timestamp) : String :=
  t.date.text ++ "T" ++ t.timeText ++ fractionText t.split.2 ++ "Z"

/-- A moment some nanoseconds later. -/
def later (t : Timestamp) (nanos : Nat) : Timestamp := ⟨t.micros + (nanos / 1000 : Nat)⟩

end Timestamp

end FlowTrace
