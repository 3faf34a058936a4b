import FlowTrace.Bytes
import FlowTrace.Json.Number

/-!
# Reading JSON

A `Reader` takes a value of a known type off the front of a text. The first thing wrong in the text,
from left to right, decides how reading fails; a fault of a value counts as soon as the value has
been read.

* `whole`, `float`, `string`, `nullable`: values.
* `array`, `members`: the items and members of a container, each by its own reader.
* `ignored`: any value, however deeply nested.
-/

namespace FlowTrace.Json

/-- Why reading ends early. -/
inductive Failure where
  /-- The text is not JSON, or not of the type that was asked for. -/
  | malformed
  /-- A value that ends the program. -/
  | fault (f : Fault)
  deriving DecidableEq, Repr

/-- Takes a value off the front of a text. -/
abbrev Reader (α : Type) := List Char → Except Failure (α × List Char)

namespace Reader

def isBlank (c : Char) : Bool := c == ' ' || c == '\n' || c == '\t' || c == '\r'

/-- The text without the blanks in front. -/
def skipBlanks (s : List Char) : List Char := s.dropWhile isBlank

/-- The given characters. -/
def exactly (expected : List Char) (s : List Char) : Except Failure (List Char) :=
  match expected, s with
  | [], s => .ok s
  | c :: expected, d :: s => if c = d then exactly expected s else .error .malformed
  | _ :: _, [] => .error .malformed

/-- One given character behind blanks. -/
def sign (c : Char) (s : List Char) : Except Failure (List Char) := exactly [c] (skipBlanks s)

/-! ## Numbers -/

def digit? (c : Char) : Option Nat :=
  if '0' ≤ c ∧ c ≤ '9' then some (c.toNat - 48) else none

/-- The digits in front of a text, and the rest. -/
def digits : List Char → List Nat × List Char
  | [] => ([], [])
  | c :: s =>
    match digit? c with
    | some d =>
      let (ds, rest) := digits s
      (d :: ds, rest)
    | none => ([], c :: s)

/-- The digits in front of a text, at least one. -/
def someDigits (s : List Char) : Except Failure (List Nat × List Char) :=
  match digits s with
  | ([], _) => .error .malformed
  | found => .ok found

/-- The value of digits. -/
def valueOf (ds : List Nat) : Nat := ds.foldl (fun n d => n * 10 + d) 0

/-- A point with the digits behind it, if there is one. -/
def fraction : Reader (Option (List Nat))
  | '.' :: s => do
    let (ds, rest) ← someDigits s
    return (some ds, rest)
  | s => return (none, s)

/-- The exponent, if there is one. -/
def exponent : Reader (Option Int) := fun s =>
  match s with
  | c :: t =>
    if c = 'e' ∨ c = 'E' then
      match t with
      | '-' :: u => do
        let (ds, rest) ← someDigits u
        return (some (-(valueOf ds : Int)), rest)
      | '+' :: u => do
        let (ds, rest) ← someDigits u
        return (some (valueOf ds : Int), rest)
      | u => do
        let (ds, rest) ← someDigits u
        return (some (valueOf ds : Int), rest)
    else return (none, s)
  | [] => return (none, s)

/-- The digits in front of the point: a lone zero, or digits that begin with another. -/
def wholeDigits (s : List Char) : Except Failure (List Nat × List Char) := do
  let (ds, rest) ← someDigits s
  if ds.head? = some 0 ∧ 1 < ds.length then throw .malformed
  return (ds, rest)

/-- The parts of a number. -/
def number : Reader NumberText := fun s => do
  let (negative, s) :=
    match s with
    | '-' :: t => (true, t)
    | _ => (false, s)
  let (ds, s) ← wholeDigits s
  let (frac, s) ← fraction s
  let (exp, s) ← exponent s
  return (⟨negative, ds, frac, exp⟩, s)

/-- A whole number below a bound. -/
def whole (bound : Nat) : Reader Nat := fun s => do
  let (n, rest) ← number (skipBlanks s)
  match n.integer? with
  | some (.ofNat v) => if v < bound then return (v, rest) else throw .malformed
  | _ => throw .malformed

/-- A number as a double. A whole number is rounded once. -/
def float : Reader Float := fun s => do
  let (n, rest) ← number (skipBlanks s)
  match n.float? with
  | some x => return (x, rest)
  | none => throw .malformed

/-! ## Strings -/

/-- The value of a hexadecimal digit. -/
def hexDigit? (c : Char) : Option Nat :=
  if '0' ≤ c ∧ c ≤ '9' then some (c.toNat - 48)
  else if 'a' ≤ c ∧ c ≤ 'f' then some (c.toNat - 87)
  else if 'A' ≤ c ∧ c ≤ 'F' then some (c.toNat - 55)
  else none

/-- Four hexadecimal digits. -/
def hex4? : List Char → Option (Nat × List Char)
  | a :: b :: c :: d :: rest => do
    let a ← hexDigit? a
    let b ← hexDigit? b
    let c ← hexDigit? c
    let d ← hexDigit? d
    some (((a * 16 + b) * 16 + c) * 16 + d, rest)
  | _ => none

/-- A one-letter escape. -/
def letterEscape? (c : Char) : Option Char :=
  if c = '"' ∨ c = '\\' ∨ c = '/' then some c
  else if c = 'b' then some (Char.ofNat 8)
  else if c = 'f' then some (Char.ofNat 12)
  else if c = 'n' then some '\n'
  else if c = 'r' then some '\r'
  else if c = 't' then some '\t'
  else none

/-- The character of a code unit: a second unit follows the first half of a pair. -/
def unitEscape? (s : List Char) : Option (Char × List Char) := do
  let (first, rest) ← hex4? s
  if first < 0xD800 ∨ 0xDFFF < first then some (Char.ofNat first, rest)
  else if 0xDC00 ≤ first then none
  else
    match rest with
    | '\\' :: 'u' :: rest =>
      let (second, rest) ← hex4? rest
      if 0xDC00 ≤ second ∧ second ≤ 0xDFFF then
        some (Char.ofNat (0x10000 + (first - 0xD800) * 0x400 + (second - 0xDC00)), rest)
      else none
    | _ => none

/-- One character of a string, and the rest. An escape of a string that is not kept may be half a
pair. -/
def character? (kept : Bool) : List Char → Option (Char × List Char)
  | '\\' :: 'u' :: s =>
    if kept then unitEscape? s else (hex4? s).map fun (_, rest) => (' ', rest)
  | '\\' :: c :: s => (letterEscape? c).map (·, s)
  | ['\\'] => none
  | c :: s => if c.toNat < 32 then none else some (c, s)
  | [] => none

/-- The characters up to the closing quote. -/
def stringTail (kept : Bool) :
    (fuel : Nat) → List Char → List Char → Except Failure (String × List Char)
  | 0, _, _ => .error .malformed
  | fuel + 1, acc, s =>
    match s with
    | '"' :: rest => .ok (String.ofList acc.reverse, rest)
    | _ =>
      match character? kept s with
      | some (c, rest) => stringTail kept fuel (c :: acc) rest
      | none => .error .malformed

/-- A string. -/
def quotedString (kept : Bool) : Reader String := fun s => do
  let s ← sign '"' s
  stringTail kept (s.length + 1) [] s

/-- A string. -/
def string : Reader String := quotedString true

/-! ## Containers -/

/-- `null`, or a value. -/
def nullable (value : Reader α) : Reader (Option α) := fun s =>
  match skipBlanks s with
  | 'n' :: rest => do
    let rest ← exactly ['u', 'l', 'l'] rest
    return (none, rest)
  | t => do
    let (v, rest) ← value t
    return (some v, rest)

/-- `null`. -/
def null : Reader Unit := fun s => do
  let rest ← exactly ['n', 'u', 'l', 'l'] (skipBlanks s)
  return ((), rest)

/-- Where reading stands while a value is passed over. -/
inductive Position where
  /-- In front of a value. -/
  | value
  /-- Behind an opening bracket or brace, where the container may end. -/
  | opened
  /-- Behind a value. -/
  | behind
  deriving DecidableEq

/-- Behind the key and the colon of a member. -/
def ignoredKey (s : List Char) : Except Failure (List Char) := do
  let (_, rest) ← quotedString false s
  sign ':' rest

/-- Passes over values until every open container is closed; `open_` tells for each whether it is an
object, the innermost first. -/
def ignoredFrom :
    (fuel : Nat) → Position → (open_ : List Bool) → List Char → Except Failure (List Char)
  | 0, _, _, _ => .error .malformed
  | fuel + 1, .value, open_, s =>
    match skipBlanks s with
    | '[' :: rest => ignoredFrom fuel .opened (false :: open_) rest
    | '\x7b' :: rest => ignoredFrom fuel .opened (true :: open_) rest
    | '"' :: rest => do
      let (_, rest) ← stringTail false (rest.length + 1) [] rest
      ignoredFrom fuel .behind open_ rest
    | 'n' :: rest => do ignoredFrom fuel .behind open_ (← exactly ['u', 'l', 'l'] rest)
    | 't' :: rest => do ignoredFrom fuel .behind open_ (← exactly ['r', 'u', 'e'] rest)
    | 'f' :: rest => do ignoredFrom fuel .behind open_ (← exactly ['a', 'l', 's', 'e'] rest)
    | t => do
      let (_, rest) ← number t
      ignoredFrom fuel .behind open_ rest
  | fuel + 1, .opened, open_, s =>
    match open_, skipBlanks s with
    | false :: outer, ']' :: rest => ignoredFrom fuel .behind outer rest
    | true :: outer, '\x7d' :: rest => ignoredFrom fuel .behind outer rest
    | true :: _, t => do ignoredFrom fuel .value open_ (← ignoredKey t)
    | _, t => ignoredFrom fuel .value open_ t
  | _ + 1, .behind, [], s => .ok s
  | fuel + 1, .behind, isObject :: outer, s =>
    match isObject, skipBlanks s with
    | false, ']' :: rest => ignoredFrom fuel .behind outer rest
    | true, '\x7d' :: rest => ignoredFrom fuel .behind outer rest
    | false, ',' :: rest => ignoredFrom fuel .value (false :: outer) rest
    | true, ',' :: rest => do ignoredFrom fuel .value (true :: outer) (← ignoredKey rest)
    | _, _ => .error .malformed

/-- Any value, passed over. -/
def ignored : Reader Unit := fun s => do
  let rest ← ignoredFrom (3 * s.length + 3) .value [] s
  return ((), rest)

/-- The next item of an array: behind a comma unless it is the first. -/
def item (first : Bool) (value : Reader α) : Reader α := fun s => do
  let s ← if first then pure s else sign ',' s
  value s

/-- The members of an object behind its opening brace. `member` is given what has been read so far
and a key, and reads the value of that key. -/
def membersFrom (member : σ → String → Reader σ) :
    (fuel : Nat) → (first : Bool) → σ → Reader σ
  | 0, _, _, _ => .error .malformed
  | fuel + 1, first, state, s =>
    match skipBlanks s with
    | '\x7d' :: rest => .ok (state, rest)
    | t => do
      let t ← if first then pure t else sign ',' t
      let (key, t) ← string t
      let t ← sign ':' t
      let (state, t) ← member state key t
      membersFrom member fuel false state t

/-- An object, read member by member. -/
def members (member : σ → String → Reader σ) (start : σ) : Reader σ := fun s => do
  let s ← sign '\x7b' s
  membersFrom member (s.length + 1) true start s

/-- The value of a whole text. -/
def ofText (value : Reader α) (text : String) : Except Failure α := do
  let (v, rest) ← value text.toList
  if (skipBlanks rest).isEmpty then return v else throw .malformed

end Reader

end FlowTrace.Json
