/-!
# Blanks and control characters

* `isBlank`: the characters with the Unicode property `White_Space`; `trim` and `firstWord?` cut a
  text at them.
* `isControl`: the characters of the Unicode category `Cc`; `withoutControls` leaves them out.
-/

namespace FlowTrace.Text

/-- White space of all scripts. -/
def isBlank (c : Char) : Bool :=
  let n := c.toNat
  (9 ≤ n && n ≤ 13) || n == 0x20 || n == 0x85 || n == 0xA0 || n == 0x1680
    || (0x2000 ≤ n && n ≤ 0x200A) || n == 0x2028 || n == 0x2029 || n == 0x202F || n == 0x205F
    || n == 0x3000

/-- The first 32 characters, and those from U+007F to U+009F. -/
def isControl (c : Char) : Bool := c.toNat < 32 || (127 ≤ c.toNat && c.toNat < 160)

/-- A text without the characters of a class at its end. -/
def trimEnd (class_ : Char → Bool) (s : List Char) : List Char :=
  (s.reverse.dropWhile class_).reverse

/-- A text without the characters of a class at either end. -/
def trimBoth (class_ : Char → Bool) (s : List Char) : List Char :=
  trimEnd class_ (s.dropWhile class_)

/-- A text without blanks at either end. -/
def trim (s : List Char) : List Char := trimBoth isBlank s

/-- The first run of characters that are not blank. -/
def firstWord? (s : List Char) : Option (List Char) :=
  match s.dropWhile isBlank with
  | [] => none
  | rest => some (rest.takeWhile (!isBlank ·))

/-- The parts between separators: one more than there are separators. -/
def parts (separator : Char) : List Char → List (List Char)
  | [] => [[]]
  | c :: s =>
    if c = separator then [] :: parts separator s
    else
      match parts separator s with
      | [] => [[c]]
      | first :: rest => (c :: first) :: rest

/-- The characters that are no controls, so that a name from elsewhere cannot steer a terminal. -/
def withoutControls (s : String) : String := String.ofList (s.toList.filter (!isControl ·))

/-- No control character is left. -/
theorem not_isControl_of_mem_withoutControls {s : String} {c : Char}
    (h : c ∈ (withoutControls s).toList) : isControl c = false := by
  simp only [withoutControls, String.toList_ofList, List.mem_filter] at h
  simpa using h.2

/-- A text without control characters stays as it is. -/
theorem withoutControls_of_forall {s : String} (h : ∀ c ∈ s.toList, isControl c = false) :
    withoutControls s = s := by
  have : s.toList.filter (!isControl ·) = s.toList :=
    List.filter_eq_self.2 fun c hc => by simp [h c hc]
  simp [withoutControls, this]

end FlowTrace.Text
