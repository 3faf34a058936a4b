import FlowTrace.Label.Lookup

/-!
# Control characters in labels

The answers of a name service come from anywhere. A host name and the name of an autonomous system
reach a label without their control characters (`isPlain_of_hostname`, `OriginAs.isPlain_name`),
whatever the service answers. The announced network is taken over as it stands, so the label is free
of control characters exactly if the second column of the origin record is (`isPlain_lookup_iff`).
-/

namespace FlowTrace

namespace Text

/-- No character is a control character. -/
def IsPlain (s : String) : Prop := ∀ c ∈ s.toList, isControl c = false

instance (s : String) : Decidable (IsPlain s) :=
  List.decidableBAll (isControl · = false) s.toList

theorem isPlain_withoutControls (s : String) : IsPlain (withoutControls s) :=
  fun _ h => not_isControl_of_mem_withoutControls h

theorem isPlain_ofList_iff {s : List Char} :
    IsPlain (String.ofList s) ↔ ∀ c ∈ s, isControl c = false := by
  rw [IsPlain, String.toList_ofList]

theorem isPlain_append {s t : String} (hs : IsPlain s) (ht : IsPlain t) : IsPlain (s ++ t) := by
  intro c h
  rw [String.toList_append, List.mem_append] at h
  exact h.elim (hs c) (ht c)

/-- Digits stand far from the control characters. -/
theorem isControl_of_isDigit {c : Char} (h : c.isDigit) : isControl c = false := by
  have range : 48 ≤ c.toNat ∧ c.toNat ≤ 57 := by
    simpa [Char.isDigit, UInt32.le_iff_toNat_le] using h
  simp only [isControl, Bool.or_eq_false_iff, Bool.and_eq_false_iff, decide_eq_false_iff_not]
  omega

theorem isPlain_toString (n : Nat) : IsPlain (toString n) := by
  intro c h
  have digits : (toString n).toList = Nat.toDigits 10 n := String.toList_ofList
  rw [digits] at h
  exact isControl_of_isDigit (Nat.isDigit_of_mem_toDigits (by decide) (by decide) h)

end Text

namespace Label

/-- All texts of a label: the host name, then name and network of its origin. -/
def texts (l : Label) : List String :=
  l.hostname.toList ++ l.origin.toList.flatMap fun o => o.name :: o.network.toList

/-- No text of the label holds a control character. -/
def IsPlain (l : Label) : Prop := ∀ s ∈ l.texts, Text.IsPlain s

instance (l : Label) : Decidable l.IsPlain :=
  List.decidableBAll Text.IsPlain l.texts

theorem isPlain_iff {l : Label} :
    l.IsPlain ↔ (∀ name, l.hostname = some name → Text.IsPlain name) ∧
      ∀ o, l.origin = some o →
        Text.IsPlain o.name ∧ ∀ network, o.network = some network → Text.IsPlain network := by
  simp only [IsPlain, texts, List.mem_append, List.mem_flatMap, Option.mem_toList, List.mem_cons]
  constructor
  · intro plain
    exact ⟨fun name h => plain name (.inl h), fun o h => ⟨plain _ (.inr ⟨o, h, .inl rfl⟩),
      fun network hn => plain _ (.inr ⟨o, h, .inr hn⟩)⟩⟩
  · rintro ⟨host, origin⟩ s (h | ⟨o, h, rfl | hn⟩)
    · exact host s h
    · exact (origin o h).1
    · exact (origin o h).2 s hn

theorem isPlain_asText (number : UInt32) : Text.IsPlain (asText number) := by
  have spelled : asText number = "AS" ++ toString number.toNat := rfl
  rw [spelled]
  exact Text.isPlain_append (by decide) (Text.isPlain_toString _)

theorem isPlain_parseName {record name : String} (h : parseName record = some name) :
    Text.IsPlain name := by
  obtain ⟨cell, -, rfl⟩ := Option.map_eq_some_iff.mp h
  exact Text.isPlain_withoutControls _

/-- The network in an origin record is its second column, unless that is empty. -/
theorem network_of_parseOrigin {record : String} {number : UInt32} {network : Option String}
    (h : parseOrigin record = some (number, network)) :
    network = ((columns record)[1]?.filter (!·.isEmpty)).map String.ofList := by
  simp only [parseOrigin, Option.bind_eq_bind, Option.bind_eq_some_iff, Option.some.injEq,
    Prod.mk.injEq] at h
  obtain ⟨-, -, -, -, -, -, -, rfl⟩ := h
  rfl

/-- If the record tells an origin, its second column has no control characters, except for blanks
at either end. -/
def NamesPlainNetwork (record : String) : Prop :=
  (parseOrigin record).isSome →
    ∀ cell, (columns record)[1]? = some cell → ∀ c ∈ cell, Text.isControl c = false

namespace NameService

variable (s : NameService) (interest : Interest) (a : Address)

theorem hostname_lookup :
    (s.lookup interest a).hostname = if interest.reverse then s.hostname a else none := by
  rw [lookup]
  cases if interest.reverse then s.hostname a else none <;>
    cases if interest.origin then s.origin a else none <;> rfl

theorem origin_lookup :
    (s.lookup interest a).origin = if interest.origin then s.origin a else none := by
  rw [lookup]
  cases if interest.reverse then s.hostname a else none <;>
    cases if interest.origin then s.origin a else none <;> rfl

variable {s interest a}

theorem isPlain_of_hostname {name : String} (h : s.hostname a = some name) :
    Text.IsPlain name := by
  obtain ⟨names, -, found⟩ := Option.bind_eq_some_iff.mp h
  obtain ⟨first, -, rfl⟩ := Option.map_eq_some_iff.mp found
  exact Text.isPlain_withoutControls _

/-- An origin comes from the first record about the address, its name from a second question. -/
theorem origin_eq_some_iff {o : OriginAs} :
    s.origin a = some o ↔ ∃ record, s.firstText (originQuery a) = some record ∧
      parseOrigin record = some (o.number, o.network) ∧
      o.name = ((s.firstText (nameQuery o.number)).bind parseName).getD (asText o.number) := by
  simp only [origin, Option.bind_eq_bind, Option.bind_eq_some_iff, Option.some.injEq]
  constructor
  · rintro ⟨⟨number, network⟩, ⟨record, asked, parsed⟩, rfl⟩
    exact ⟨record, asked, parsed, rfl⟩
  · rintro ⟨record, asked, parsed, named⟩
    exact ⟨(o.number, o.network), ⟨record, asked, parsed⟩, by rw [← named]⟩

theorem exists_origin {record : String} {number : UInt32} {network : Option String}
    (asked : s.firstText (originQuery a) = some record)
    (parsed : parseOrigin record = some (number, network)) : ∃ o, s.origin a = some o := by
  simp only [origin, asked, Option.bind_some, parsed, Option.bind_eq_bind]
  exact ⟨_, rfl⟩

theorem isPlain_name_of_origin {o : OriginAs} (h : s.origin a = some o) :
    Text.IsPlain o.name := by
  obtain ⟨record, -, -, named⟩ := origin_eq_some_iff.mp h
  rw [named]
  cases answered : (s.firstText (nameQuery o.number)).bind parseName with
  | none => exact isPlain_asText _
  | some name =>
    obtain ⟨text, -, parsed⟩ := Option.bind_eq_some_iff.mp answered
    exact isPlain_parseName parsed

/-- The network of an origin is free of control characters exactly if the record says so. -/
theorem isPlain_network_iff {o : OriginAs} {record : String}
    (asked : s.firstText (originQuery a) = some record) (h : s.origin a = some o) :
    (∀ network, o.network = some network → Text.IsPlain network) ↔ NamesPlainNetwork record := by
  obtain ⟨record', asked', parsed, -⟩ := origin_eq_some_iff.mp h
  obtain rfl : record = record' := Option.some.inj (asked.symm.trans asked')
  rw [network_of_parseOrigin parsed, NamesPlainNetwork, parsed]
  constructor
  · intro plain _ cell column c hc
    have kept : (columns record)[1]?.filter (!·.isEmpty) = some cell := by
      rw [column, Option.filter_some, if_pos]
      cases cell with
      | nil => cases hc
      | cons => rfl
    have := plain (String.ofList cell) (by rw [kept]; rfl)
    exact Text.isPlain_ofList_iff.mp this c hc
  · intro plain network hn
    obtain ⟨cell, kept, rfl⟩ := Option.map_eq_some_iff.mp hn
    exact Text.isPlain_ofList_iff.mpr (plain rfl cell (Option.filter_eq_some_iff.mp kept).1)

/-- Whatever a name service answers, the host name and the name of the origin in a label are free of
control characters. The whole label is exactly if it is not about the origin, or the record of the
origin names a network without them. -/
theorem isPlain_lookup_iff (s : NameService) (interest : Interest) (a : Address) :
    (∀ name, (s.lookup interest a).hostname = some name → Text.IsPlain name) ∧
    (∀ o, (s.lookup interest a).origin = some o → Text.IsPlain o.name) ∧
    ((s.lookup interest a).IsPlain ↔ (interest.origin = true →
      ∀ record, s.firstText (originQuery a) = some record → NamesPlainNetwork record)) := by
  have host : ∀ name, (s.lookup interest a).hostname = some name → Text.IsPlain name := by
    intro name h
    rw [hostname_lookup] at h
    split at h
    · exact isPlain_of_hostname h
    · cases h
  have named : ∀ o, (s.lookup interest a).origin = some o → Text.IsPlain o.name := by
    intro o h
    rw [origin_lookup] at h
    split at h
    · exact isPlain_name_of_origin h
    · cases h
  refine ⟨host, named, ?_⟩
  rw [isPlain_iff, origin_lookup]
  constructor
  · rintro ⟨-, plain⟩ about record asked told
    rw [if_pos about] at plain
    obtain ⟨⟨number, network⟩, parsed⟩ := Option.isSome_iff_exists.mp told
    obtain ⟨o, known⟩ := exists_origin asked parsed
    exact (isPlain_network_iff asked known).mp (plain o known).2 told
  · intro plain
    refine ⟨host, fun o h => ?_⟩
    split at h
    · next about =>
      obtain ⟨record, asked, -⟩ := origin_eq_some_iff.mp h
      exact ⟨isPlain_name_of_origin h, (isPlain_network_iff asked h).mpr (plain about record asked)⟩
    · cases h

/-- A service that knows nothing but one record, "7 | 10.\x1b[2J0.0/8" in UTF-8, whose second column
clears the screen of a terminal. -/
def screenClearing : NameService where
  names _ := none
  records name :=
    if name = "1.0.0.10.origin.asn.cymru.com" then
      some [[[0x37, 0x20, 0x7c, 0x20, 0x31, 0x30, 0x2e, 0x1b, 0x5b, 0x32, 0x4a, 0x30, 0x2e, 0x30,
        0x2f, 0x38]]]
    else none

/-- The escape sequence reaches the label. -/
theorem not_isPlain_lookup_screenClearing :
    ¬ ∀ (s : NameService) (interest : Interest) (a : Address), (s.lookup interest a).IsPlain := by
  intro plain
  have := plain screenClearing ⟨true, true⟩ (.ofOctets4 10 0 0 1)
  revert this
  decide +kernel

end NameService

end Label

end FlowTrace
