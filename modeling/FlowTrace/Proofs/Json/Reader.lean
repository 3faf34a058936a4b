import FlowTrace.Json.Reader
import Mathlib.Data.List.DropRight

/-!
# Readers never lengthen the text, and never fault of themselves

`Yields P F` says what may come of reading: a value that satisfies `P`, a text that is refused, or a
fault that satisfies `F`. One lemma for each reader says that it leaves no more text than it was
given, whatever `F` is: so a fault is only ever that of a value.

* `Yields.bind`: one reader after another.
* `Plain`: a reader that leaves no more text than it was given, and has no fault of its own.
* `Plain.nullable`, `Plain.quotedString`, `plain_ignored` and so on: the readers are plain.
-/

namespace FlowTrace.Json.Reader

/-- What comes of reading: a value that satisfies `P`, or a fault that satisfies `F`; a text may
also be refused. -/
def Yields (P : α → Prop) (F : Fault → Prop) : Except Failure α → Prop
  | .ok a => P a
  | .error .malformed => True
  | .error (.fault f) => F f

section

variable {P : α → Prop} {Q : β → Prop} {F G : Fault → Prop} {r : Except Failure α}

theorem Yields.bind_eq {next : α → Except Failure β} (h : Yields P F r)
    (hnext : ∀ a, r = .ok a → P a → Yields Q F (next a)) : Yields Q F (r >>= next) := by
  match r, h with
  | .ok a, h => exact hnext a rfl h
  | .error .malformed, _ => trivial
  | .error (.fault f), h => exact h

theorem Yields.bind {next : α → Except Failure β} (h : Yields P F r)
    (hnext : ∀ a, P a → Yields Q F (next a)) : Yields Q F (r >>= next) :=
  h.bind_eq fun a _ => hnext a

theorem Yields.of_ok {a : α} (h : Yields P F r) (hr : r = .ok a) : P a := by
  rw [hr] at h
  exact h

theorem Yields.eq_malformed {e : Failure} (h : Yields P (fun _ => False) r) (hr : r = .error e) :
    e = .malformed := by
  cases e with
  | malformed => rfl
  | fault f => rw [hr] at h; exact h.elim

theorem Yields.imp {P' : α → Prop} (h : Yields P F r) (hP : ∀ a, P a → P' a) :
    Yields P' F r := by
  match r, h with
  | .ok a, h => exact hP a h
  | .error .malformed, _ => trivial
  | .error (.fault f), h => exact h

theorem Yields.imp_fault (h : Yields P F r) (hF : ∀ f, F f → G f) : Yields P G r := by
  match r, h with
  | .ok a, h => exact h
  | .error .malformed, _ => trivial
  | .error (.fault f), h => exact hF f h

theorem Yields.le_trans {size : α → Nat} {n m : Nat} (h : Yields (fun a => size a ≤ n) F r)
    (hnm : n ≤ m) : Yields (fun a => size a ≤ m) F r :=
  h.imp fun _ ha => Nat.le_trans ha hnm

end

/-- A reader that leaves no more text than it was given and has no fault of its own. -/
def Plain (r : Reader α) : Prop :=
  ∀ (F : Fault → Prop) (s : List Char), Yields (fun p => p.2.length ≤ s.length) F (r s)

variable {F : Fault → Prop}

/-! ## Characters and digits -/

theorem length_skipBlanks_le (s : List Char) : (skipBlanks s).length ≤ s.length :=
  (List.dropWhile_suffix _).length_le

theorem yields_exactly (expected s : List Char) :
    Yields (fun t => t.length + expected.length = s.length) F (exactly expected s) := by
  fun_induction exactly expected s with
  | case1 s => exact rfl
  | case2 c expected s ih =>
    exact ih.imp fun t ht => by simp only [List.length_cons]; omega
  | case3 | case4 => trivial

/-- The sign itself is taken off. -/
theorem yields_sign (c : Char) (s : List Char) :
    Yields (fun t => t.length < s.length) F (sign c s) := by
  refine (yields_exactly [c] (skipBlanks s)).imp fun t ht => ?_
  have := length_skipBlanks_le s
  simp only [List.length_singleton] at ht
  omega

theorem sign_skipBlanks (c : Char) (s : List Char) : sign c (skipBlanks s) = sign c s := by
  rw [sign, sign, skipBlanks, skipBlanks, List.dropWhile_idempotent]

theorem eq_cons_of_sign {c : Char} {s t : List Char} (h : sign c s = .ok t) :
    skipBlanks s = c :: t := by
  unfold sign at h
  cases hs : skipBlanks s with
  | nil => rw [hs] at h; cases h
  | cons d u =>
    rw [hs, exactly] at h
    split at h
    · next hc =>
      cases h
      rw [hc]
    · cases h

theorem length_digits_le (s : List Char) : (digits s).2.length ≤ s.length := by
  fun_induction digits s with
  | case1 => exact Nat.le_refl _
  | case2 c s d hd ds rest hrest ih =>
    rw [hrest] at ih
    exact Nat.le_succ_of_le ih
  | case3 => exact Nat.le_refl _

theorem plain_someDigits : Plain someDigits := by
  intro F s
  have := length_digits_le s
  unfold someDigits
  split
  · trivial
  · exact this

theorem plain_fraction : Plain fraction := by
  intro F s
  unfold fraction
  split
  · refine (plain_someDigits F _).bind fun p hp => ?_
    exact Nat.le_succ_of_le hp
  · exact Nat.le_refl _

theorem plain_exponent : Plain exponent := by
  intro F s
  unfold exponent
  split
  · split
    · split
      all_goals
        refine (plain_someDigits F _).bind fun p hp => ?_
        simp only [Yields, pure, Except.pure, List.length_cons]
        omega
    · exact Nat.le_refl _
  · exact Nat.le_refl _

theorem plain_wholeDigits : Plain wholeDigits := by
  intro F s
  refine (plain_someDigits F s).bind fun p hp => ?_
  dsimp only
  split
  · trivial
  · exact hp

/-- All that stands behind the sign of a number. -/
theorem yields_unsigned (negative : Bool) (s : List Char) :
    Yields (fun p => p.2.length ≤ s.length) F (do
      let (ds, s) ← wholeDigits s
      let (frac, s) ← fraction s
      let (exp, s) ← exponent s
      return ((⟨negative, ds, frac, exp⟩ : NumberText), s)) := by
  refine (plain_wholeDigits F s).bind fun p hp => ?_
  refine (plain_fraction F p.2).bind fun q hq => ?_
  refine (plain_exponent F q.2).bind fun t ht => ?_
  exact Nat.le_trans ht (Nat.le_trans hq hp)

theorem plain_number : Plain number := by
  intro F s
  unfold number
  split
  next negative t hsign =>
  refine (yields_unsigned negative t).le_trans ?_
  split at hsign <;> cases hsign
  · exact Nat.le_succ _
  · exact Nat.le_refl _

theorem plain_whole (bound : Nat) : Plain (whole bound) := by
  intro F s
  refine (plain_number F _).bind fun p hp => ?_
  dsimp only
  split
  · split
    · exact Nat.le_trans hp (length_skipBlanks_le s)
    · trivial
  · trivial

theorem plain_float : Plain float := by
  intro F s
  refine (plain_number F _).bind fun p hp => ?_
  dsimp only
  split
  · exact Nat.le_trans hp (length_skipBlanks_le s)
  · trivial

/-! ## Strings -/

theorem length_of_hex4? {s rest : List Char} {n : Nat} (h : hex4? s = some (n, rest)) :
    rest.length < s.length := by
  unfold hex4? at h
  split at h
  · simp only [Option.bind_eq_bind, Option.bind_eq_some_iff, Option.some.injEq,
      Prod.mk.injEq] at h
    obtain ⟨-, -, -, -, -, -, -, -, -, rfl⟩ := h
    simp only [List.length_cons]
    omega
  · cases h

theorem length_of_unitEscape? {s rest : List Char} {c : Char} (h : unitEscape? s = some (c, rest)) :
    rest.length < s.length := by
  simp only [unitEscape?, Option.bind_eq_bind, Option.bind_eq_some_iff] at h
  obtain ⟨⟨first, t⟩, hfirst, h⟩ := h
  have ht := length_of_hex4? hfirst
  dsimp only at h
  split at h
  · cases h
    exact ht
  split at h
  · cases h
  split at h
  · next u hu =>
    simp only [Option.bind_eq_some_iff] at h
    obtain ⟨⟨second, v⟩, hsecond, h⟩ := h
    have hv := length_of_hex4? hsecond
    dsimp only at h
    split at h
    · rw [Option.some.injEq, Prod.mk.injEq] at h
      rw [← h.2]
      simp only [List.length_cons] at ht
      omega
    · cases h
  · cases h

theorem length_of_character? {kept : Bool} {s rest : List Char} {c : Char}
    (h : character? kept s = some (c, rest)) : rest.length < s.length := by
  unfold character? at h
  split at h
  · next t =>
    split at h
    · have := length_of_unitEscape? h
      simp only [List.length_cons]
      omega
    · simp only [Option.map_eq_some_iff] at h
      obtain ⟨⟨n, u⟩, hn, h⟩ := h
      have := length_of_hex4? hn
      cases h
      simp only [List.length_cons]
      omega
  · simp only [Option.map_eq_some_iff] at h
    obtain ⟨d, -, h⟩ := h
    cases h
    simp only [List.length_cons]
    omega
  · cases h
  · split at h <;> cases h
    exact Nat.lt_succ_self _
  · cases h

/-- The characters are taken off, and the closing quote. -/
theorem yields_stringTail (kept : Bool) (fuel : Nat) (acc s : List Char) :
    Yields (fun p => p.2.length < s.length) F (stringTail kept fuel acc s) := by
  induction fuel generalizing acc s with
  | zero => trivial
  | succ fuel ih =>
    unfold stringTail
    split
    · exact Nat.lt_succ_self _
    · split
      · next c rest hc =>
        have := length_of_character? hc
        exact (ih (c :: acc) rest).imp fun p hp => Nat.lt_trans hp this
      · trivial

theorem plain_quotedString (kept : Bool) : Plain (quotedString kept) := by
  intro F s
  refine (yields_sign '"' s).bind fun t ht => ?_
  refine (yields_stringTail kept _ [] t).imp fun p hp => ?_
  omega

theorem plain_string : Plain string := plain_quotedString true

/-! ## Containers -/

theorem Plain.nullable {value : Reader α} (h : Plain value) : Plain (nullable value) := by
  intro F s
  have hs := length_skipBlanks_le s
  unfold Reader.nullable
  split
  · next rest hrest =>
    refine (yields_exactly _ rest).bind fun t ht => ?_
    rw [hrest] at hs
    simp only [Yields, pure, Except.pure, List.length_cons] at ht hs ⊢
    omega
  · refine (h F _).bind fun p hp => ?_
    exact Nat.le_trans hp hs

theorem plain_null : Plain null := by
  intro F s
  refine (yields_exactly _ _).bind fun t ht => ?_
  have hs := length_skipBlanks_le s
  simp only [Yields, pure, Except.pure]
  omega

theorem yields_ignoredKey (s : List Char) :
    Yields (fun t => t.length ≤ s.length) F (ignoredKey s) := by
  refine (plain_quotedString false F s).bind fun p hp => ?_
  refine (yields_sign ':' p.2).imp fun t ht => ?_
  omega

theorem yields_ignoredFrom (fuel : Nat) (position : Position) (isOpen : List Bool) (s : List Char) :
    Yields (fun t => t.length ≤ s.length) F (ignoredFrom fuel position isOpen s) := by
  induction fuel generalizing position isOpen s with
  | zero => trivial
  | succ fuel ih =>
    have hs := length_skipBlanks_le s
    cases position with
    | value =>
      unfold ignoredFrom
      split
      case h_1 rest h | h_2 rest h =>
        rw [h, List.length_cons] at hs
        exact (ih .opened _ rest).le_trans (by omega)
      case h_3 rest h =>
        rw [h, List.length_cons] at hs
        refine (yields_stringTail false _ [] rest).bind fun p hp => ?_
        exact (ih .behind isOpen p.2).le_trans (by omega)
      case h_4 rest h | h_5 rest h | h_6 rest h =>
        rw [h, List.length_cons] at hs
        refine (yields_exactly _ rest).bind fun t ht => ?_
        exact (ih .behind isOpen t).le_trans (by omega)
      case h_7 =>
        refine (plain_number F _).bind fun p hp => ?_
        exact (ih .behind isOpen p.2).le_trans (by omega)
    | opened =>
      unfold ignoredFrom
      split
      case h_1 rest h | h_2 rest h =>
        rw [h, List.length_cons] at hs
        exact (ih .behind _ rest).le_trans (by omega)
      case h_3 =>
        refine (yields_ignoredKey _).bind fun t ht => ?_
        exact (ih .value _ t).le_trans (by omega)
      case h_4 => exact (ih .value _ _).le_trans hs
    | behind =>
      cases isOpen with
      | nil => exact Nat.le_refl _
      | cons isObject outer =>
        unfold ignoredFrom
        split
        case h_1 rest h | h_2 rest h =>
          rw [h, List.length_cons] at hs
          exact (ih .behind _ rest).le_trans (by omega)
        case h_3 rest h =>
          rw [h, List.length_cons] at hs
          exact (ih .value _ rest).le_trans (by omega)
        case h_4 rest h =>
          rw [h, List.length_cons] at hs
          refine (yields_ignoredKey rest).bind fun t ht => ?_
          exact (ih .value _ t).le_trans (by omega)
        case h_5 => trivial

theorem plain_ignored : Plain ignored := by
  intro F s
  refine (yields_ignoredFrom _ _ _ s).bind fun t ht => ?_
  exact ht

/-- The comma in front of all items and members but the first. -/
def comma (first : Bool) (s : List Char) : Except Failure (List Char) :=
  if first then pure s else sign ',' s

theorem yields_comma (first : Bool) (s : List Char) :
    Yields (fun t => t.length ≤ s.length) F (comma first s) := by
  cases first with
  | true => exact Nat.le_refl _
  | false => exact (yields_sign ',' s).imp fun _ ht => Nat.le_of_lt ht

end FlowTrace.Json.Reader
