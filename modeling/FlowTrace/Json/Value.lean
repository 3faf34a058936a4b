import FlowTrace.Json.Number

/-!
# JSON values

`Json.compact` writes a value without blanks, `Json.pretty` with two blanks of indentation a level.
Members keep their order. `toJson` is the JSON form of a value of another type.
-/

namespace FlowTrace

/-- A JSON value. Whole numbers and doubles are kept apart, because they are written differently. -/
inductive Json where
  | null
  | bool (b : Bool)
  | nat (n : Nat)
  | float (x : Float)
  | text (s : String)
  | array (items : List Json)
  | object (members : List (String × Json))

namespace Json

/-- A value that may be absent. -/
def ofOption (f : α → Json) : Option α → Json
  | none => null
  | some a => f a

/-- A character inside a string. -/
def escape (c : Char) : List Char :=
  if c = '"' then ['\\', '"']
  else if c = '\\' then ['\\', '\\']
  else if c = '\n' then ['\\', 'n']
  else if c = '\r' then ['\\', 'r']
  else if c = '\t' then ['\\', 't']
  else if c.toNat = 8 then ['\\', 'b']
  else if c.toNat = 12 then ['\\', 'f']
  else if c.toNat < 32 then
    ['\\', 'u', '0', '0', Nat.digitChar (c.toNat / 16), Nat.digitChar (c.toNat % 16)]
  else [c]

/-- A string in quotes. -/
def quoted (s : String) : String := "\"" ++ String.ofList (s.toList.flatMap escape) ++ "\""

/-- How the items of arrays and objects are set out. -/
inductive Style where
  | compact
  | pretty
  deriving DecidableEq, Repr

/-- What stands in front of an item at a depth. -/
def Style.lineBreak : Style → Nat → String
  | .compact, _ => ""
  | .pretty, depth => "\n" ++ String.ofList (List.replicate (2 * depth) ' ')

/-- What stands between a key and its value. -/
def Style.colon : Style → String
  | .compact => ":"
  | .pretty => ": "

mutual

/-- The text of a value at a depth. -/
def write (style : Style) (depth : Nat) : Json → String
  | null => "null"
  | bool b => if b then "true" else "false"
  | nat n => toString n
  | float x => floatText x
  | text s => quoted s
  | array [] => "[]"
  | array (item :: rest) =>
    "[" ++ style.lineBreak (depth + 1) ++ write style (depth + 1) item
      ++ writeItems style (depth + 1) rest ++ style.lineBreak depth ++ "]"
  | object [] => "\x7b\x7d"
  | object ((key, value) :: rest) =>
    "\x7b" ++ style.lineBreak (depth + 1) ++ quoted key ++ style.colon
      ++ write style (depth + 1) value ++ writeMembers style (depth + 1) rest
      ++ style.lineBreak depth ++ "\x7d"

/-- The further items of an array. -/
def writeItems (style : Style) (depth : Nat) : List Json → String
  | [] => ""
  | item :: rest =>
    "," ++ style.lineBreak depth ++ write style depth item ++ writeItems style depth rest

/-- The further members of an object. -/
def writeMembers (style : Style) (depth : Nat) : List (String × Json) → String
  | [] => ""
  | (key, value) :: rest =>
    "," ++ style.lineBreak depth ++ quoted key ++ style.colon ++ write style depth value
      ++ writeMembers style depth rest

end

/-- The text of a value without blanks. -/
def compact (j : Json) : String := j.write .compact 0

/-- The text of a value with a line for each item. -/
def pretty (j : Json) : String := j.write .pretty 0

end Json

/-! ## Values with a JSON form -/

/-- Values with a JSON form. -/
class ToJson (α : Type u) where
  toJson : α → Json

export ToJson (toJson)

instance : ToJson Json := ⟨id⟩
instance : ToJson Bool := ⟨.bool⟩
instance : ToJson Nat := ⟨.nat⟩
instance : ToJson UInt8 := ⟨fun w => .nat w.toNat⟩
instance : ToJson UInt16 := ⟨fun w => .nat w.toNat⟩
instance : ToJson UInt32 := ⟨fun w => .nat w.toNat⟩
instance : ToJson Float := ⟨.float⟩
instance : ToJson String := ⟨.text⟩
instance [ToJson α] : ToJson (List α) := ⟨fun items => .array (items.map toJson)⟩

/-- An absent value is null. -/
instance [ToJson α] : ToJson (Option α) := ⟨Json.ofOption toJson⟩

end FlowTrace
