/-!
# Columns and sinks

A column is a text filled up with blanks to a width in characters. A longer text is not cut.

A sink with room for some bytes keeps the beginning of what is written to it and fails at the first
byte too many.
-/

namespace FlowTrace.Text

/-! ## Columns -/

/-- What a text lacks to a width. -/
def filling (width : Nat) (s : String) : String :=
  String.ofList (List.replicate (width - s.length) ' ')

/-- A column with its text on the left. -/
def left (width : Nat) (s : String) : String := s ++ filling width s

/-- A column with its text on the right. -/
def right (width : Nat) (s : String) : String := filling width s ++ s

/-- A column is never narrower than its width. -/
theorem length_left (width : Nat) (s : String) : (left width s).length = max width s.length := by
  simp only [left, filling, String.length_append, String.length_ofList, List.length_replicate]
  omega

theorem length_right (width : Nat) (s : String) :
    (right width s).length = max width s.length := by
  simp only [right, filling, String.length_append, String.length_ofList, List.length_replicate]
  omega

/-! ## Sinks of bounded size -/

/-- The characters that fit whole in a number of bytes, and whether the next one fits in part. -/
def cut : (room : Nat) → List Char → List Char × Bool
  | _, [] => ([], false)
  | room, c :: s =>
    if c.utf8Size ≤ room then
      let (kept, torn) := cut (room - c.utf8Size) s
      (c :: kept, torn)
    else ([], 0 < room)

/-- What a sink with room for some bytes keeps of a text. A character that fits in part shows as
U+FFFD. -/
def kept (room : Nat) (s : String) : String :=
  let (whole, torn) := cut room s.toList
  String.ofList (if torn then whole ++ [Char.ofNat 0xFFFD] else whole)

/-- The text fits in a number of bytes. -/
def fits (room : Nat) (s : String) : Bool := s.utf8ByteSize ≤ room

end FlowTrace.Text
