/-!
# Bytes and big-endian words

Byte strings are lists of `UInt8`. Words are read and written with the high byte first.

* `word16`, `word32`: a word from its bytes; `octets16`, `octets32`: the bytes of a word.
* `byteAt`, `word16At`, `word32At`, `slice`, `suffix`: reads that fault outside the string.
* `hex`, `ofHex?`: two lower-case hexadecimal digits a byte.

A `Fault` is a failure that ends the program: a read outside a byte string or a time span that does
not fit. Functions that can meet one return `Except Fault`, so that "it never fails this way" is a
statement about their values.
-/

namespace FlowTrace

/-- A failure that no caller recovers from. -/
inductive Fault where
  /-- A byte was asked for that the input does not hold. -/
  | outOfRange
  /-- Seconds that no time span holds: negative, too large or not a number. -/
  | spanOutOfRange
  deriving DecidableEq, Repr

/-- A short account of the fault. -/
def Fault.message : Fault → String
  | .outOfRange => "index out of range"
  | .spanOutOfRange => "time span out of range"

/-- A byte string. -/
abbrev Bytes := List UInt8

/-- The word with the given high and low bytes. -/
def word16 (hi lo : UInt8) : UInt16 := UInt16.ofNat (hi.toNat * 256 + lo.toNat)

/-- The word with the given bytes, high byte first. -/
def word32 (a b c d : UInt8) : UInt32 :=
  UInt32.ofNat (((a.toNat * 256 + b.toNat) * 256 + c.toNat) * 256 + d.toNat)

/-- The two bytes of a word, high byte first. -/
def octets16 (w : UInt16) : Bytes := [UInt8.ofNat (w.toNat / 256), UInt8.ofNat (w.toNat % 256)]

/-- The four bytes of a word, high byte first. -/
def octets32 (w : UInt32) : Bytes :=
  [UInt8.ofNat (w.toNat / 16777216), UInt8.ofNat (w.toNat / 65536 % 256),
    UInt8.ofNat (w.toNat / 256 % 256), UInt8.ofNat (w.toNat % 256)]

@[simp] theorem length_octets16 (w : UInt16) : (octets16 w).length = 2 := rfl

@[simp] theorem length_octets32 (w : UInt32) : (octets32 w).length = 4 := rfl

/-- The bytes of a word read back as the word. -/
theorem word16_octets (w : UInt16) :
    word16 (UInt8.ofNat (w.toNat / 256)) (UInt8.ofNat (w.toNat % 256)) = w := by
  apply UInt16.toNat_inj.1
  have h := w.toNat_lt
  simp only [word16, UInt16.toNat_ofNat', UInt8.toNat_ofNat']
  omega

/-- The four bytes of a word read back as the word. -/
theorem word32_octets (w : UInt32) :
    word32 (UInt8.ofNat (w.toNat / 16777216)) (UInt8.ofNat (w.toNat / 65536 % 256))
      (UInt8.ofNat (w.toNat / 256 % 256)) (UInt8.ofNat (w.toNat % 256)) = w := by
  apply UInt32.toNat_inj.1
  have h := w.toNat_lt
  simp only [word32, UInt32.toNat_ofNat', UInt8.toNat_ofNat']
  omega

namespace Bytes

/-- The byte at an index. -/
def byteAt (data : Bytes) (i : Nat) : Except Fault UInt8 :=
  match data[i]? with
  | some b => .ok b
  | none => .error .outOfRange

/-- The word at an index. -/
def word16At (data : Bytes) (i : Nat) : Except Fault UInt16 := do
  let hi ← data.byteAt i
  let lo ← data.byteAt (i + 1)
  return word16 hi lo

/-- The four-byte word at an index. -/
def word32At (data : Bytes) (i : Nat) : Except Fault UInt32 := do
  let a ← data.byteAt i
  let b ← data.byteAt (i + 1)
  let c ← data.byteAt (i + 2)
  let d ← data.byteAt (i + 3)
  return word32 a b c d

/-- The bytes from index `i` up to, not including, index `j`. -/
def slice (data : Bytes) (i j : Nat) : Except Fault Bytes :=
  if i ≤ j ∧ j ≤ data.length then .ok ((data.drop i).take (j - i)) else .error .outOfRange

/-- The bytes from index `i` to the end. -/
def suffix (data : Bytes) (i : Nat) : Except Fault Bytes :=
  if i ≤ data.length then .ok (data.drop i) else .error .outOfRange

theorem byteAt_of_getElem? {data : Bytes} {i : Nat} {b : UInt8} (h : data[i]? = some b) :
    data.byteAt i = .ok b := by simp [byteAt, h]

theorem slice_of_le {data : Bytes} {i j : Nat} (hij : i ≤ j) (hj : j ≤ data.length) :
    data.slice i j = .ok ((data.drop i).take (j - i)) := by simp [slice, hij, hj]

theorem suffix_of_le {data : Bytes} {i : Nat} (h : i ≤ data.length) :
    data.suffix i = .ok (data.drop i) := by simp [suffix, h]

/-- The lower-case hexadecimal digit of a number below 16. -/
def hexDigit (n : Nat) : Char :=
  if n < 10 then Char.ofNat (48 + n) else Char.ofNat (87 + n)

/-- Two hexadecimal digits a byte. -/
def hex (data : Bytes) : String :=
  String.ofList (data.flatMap fun b => [hexDigit (b.toNat / 16), hexDigit (b.toNat % 16)])

/-- The value of a lower-case hexadecimal digit. -/
def ofHexDigit? (c : Char) : Option Nat :=
  if '0' ≤ c ∧ c ≤ '9' then some (c.toNat - 48)
  else if 'a' ≤ c ∧ c ≤ 'f' then some (c.toNat - 87)
  else none

/-- The bytes that pairs of lower-case hexadecimal digits stand for. -/
def ofHex? : List Char → Option Bytes
  | [] => some []
  | [_] => none
  | a :: b :: rest => do
    let hi ← ofHexDigit? a
    let lo ← ofHexDigit? b
    let more ← ofHex? rest
    some (UInt8.ofNat (hi * 16 + lo) :: more)

end Bytes

end FlowTrace
