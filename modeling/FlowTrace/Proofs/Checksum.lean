import FlowTrace.Checksum
import FlowTrace.Proofs.Bytes

/-!
# Checksums as arithmetic modulo 65535

- **Words** (`toNat_fold`, `toNat_complement`): the end-around carries and the complement as
  arithmetic on numbers.
- **Totals** (`total`, `toNat_sumWords`): the sum of all words of some bytes as a number; over fewer
  than 131072 bytes no carry of 32 bits is lost (`total_lt`). A run of words that is replaced
  changes it by the difference (`total_overwrite`).
- **Checksums** (`checksumWith_eq_iff`): the checksum on top of a sum is the word that makes up a
  multiple of 65535 with that sum and the total of the bytes, with one of the two zeros ruled out. A
  spare word makes it come out as wished (`checksumWith_compensate_iff`). Bytes that are given their
  checksum pass the test (`verify_seal`). Bytes whose end is missing may pass it as well
  (`verify_take_iff`).
- **Pseudo-headers** (`pseudoHeader`): the bytes that a transport checksum covers besides the
  datagram (`checksumWith_pseudoHeaderSum`).
- **Patches** (`Adjusts`): a checksum can be adjusted in one way to a change of covered bytes, and
  undoing a patch does so (`adjusts_undoPatch`).
-/

namespace FlowTrace

namespace Checksum

theorem toNat_complement (w : UInt16) : (~~~ w).toNat = 65535 - w.toNat := by
  rw [UInt16.toNat_not, UInt16.size]

/-- Folding is two carries. -/
theorem toNat_fold (sum : UInt32) :
    (fold sum).toNat = carry (carry sum.toNat) := by
  rw [fold, UInt16.toNat_ofNat']
  exact Nat.mod_eq_of_lt (carry_carry_lt sum.toNat_lt)

/-- Folding keeps the remainder modulo 65535. -/
theorem fold_mod (sum : UInt32) : (fold sum).toNat % 65535 = sum.toNat % 65535 := by
  rw [toNat_fold, carry, carry]
  omega

/-- Of the two zeros modulo 65535, only an empty sum folds to the one without bits. -/
theorem fold_eq_zero_iff (sum : UInt32) : (fold sum).toNat = 0 ↔ sum.toNat = 0 := by
  rw [toNat_fold, carry, carry]
  omega

/-- Within one turn of the sum, undoing a patch of one word moves the checksum by the difference of
the words. -/
theorem toNat_undoPatch_octets16 (seen sent was : UInt16)
    (hpos : sent.toNat < seen.toNat + was.toNat)
    (hlt : seen.toNat + was.toNat < sent.toNat + 65535) :
    (undoPatch seen (octets16 sent) (octets16 was)).toNat + sent.toNat =
      seen.toNat + was.toNat := by
  have hs := seen.toNat_lt
  have hw := was.toNat_lt
  have ht := sent.toNat_lt
  simp only [undoPatch, octets16, sumWords, sumComplements, word16_octets, toNat_complement,
    toNat_fold, UInt32.toNat_add, UInt16.toNat_toUInt32, carry]
  omega

/-! ## Totals -/

/-- The sum of all words, as a number. -/
def total : Bytes → Nat
  | hi :: lo :: rest => hi.toNat * 256 + lo.toNat + total rest
  | [last] => last.toNat * 256
  | [] => 0

@[simp] theorem total_nil : total [] = 0 := rfl

@[simp] theorem total_cons_cons (hi lo : UInt8) (rest : Bytes) :
    total (hi :: lo :: rest) = hi.toNat * 256 + lo.toNat + total rest := rfl

@[simp] theorem total_octets16 (w : UInt16) : total (octets16 w) = w.toNat := by
  have h := congrArg UInt16.toNat (word16_octets w)
  rw [toNat_word16] at h
  simpa [octets16] using h

theorem total_append {a : Bytes} (heven : a.length % 2 = 0) (b : Bytes) :
    total (a ++ b) = total a + total b := by
  fun_induction total a with
  | case1 hi lo rest ih =>
    have rest_even : rest.length % 2 = 0 := by simp only [List.length_cons] at heven; omega
    rw [List.cons_append, List.cons_append, total_cons_cons, ih rest_even]
    omega
  | case2 => simp at heven
  | case3 => simp

theorem total_le (data : Bytes) : total data ≤ 65535 * ((data.length + 1) / 2) := by
  fun_induction total data with
  | case1 hi lo rest ih =>
    have h := hi.toNat_lt
    have l := lo.toNat_lt
    simp only [List.length_cons]
    omega
  | case2 last =>
    have l := last.toNat_lt
    simp only [List.length_cons, List.length_nil]
    omega
  | case3 => simp

/-- The words of fewer than 131072 bytes add up to less than 32 bits hold. -/
theorem total_lt {data : Bytes} (hshort : data.length < 131072) : total data < 4294967296 := by
  have := total_le data
  omega

/-- Only bytes without any bit add up to nothing. -/
theorem total_eq_zero_iff (data : Bytes) : total data = 0 ↔ ∀ b ∈ data, b = 0 := by
  have blank (b : UInt8) : b = 0 ↔ b.toNat = 0 := UInt8.toNat_inj.symm
  fun_induction total data with
  | case1 hi lo rest ih =>
    rw [List.forall_mem_cons, List.forall_mem_cons, blank, blank]
    refine ⟨fun h => ⟨by omega, by omega, ih.mp (by omega)⟩, fun ⟨h, l, r⟩ => ?_⟩
    rw [h, l, ih.mpr r]
  | case2 last =>
    rw [List.forall_mem_singleton, blank]
    omega
  | case3 => simp

/-- The total of bytes around a run of whole words. -/
theorem total_between {before field : Bytes} (heven : before.length % 2 = 0)
    (hwhole : field.length % 2 = 0) (after : Bytes) :
    total (before ++ field ++ after) = total before + total field + total after := by
  have haligned : (before ++ field).length % 2 = 0 := by
    rw [List.length_append]
    omega
  rw [total_append haligned, total_append heven]

/-- Where a run of whole words is replaced, the total changes by the difference of the runs. -/
theorem total_overwrite {data old new : Bytes} {i : Nat} (haligned : i % 2 = 0)
    (hwhole : old.length % 2 = 0) (hsame : new.length = old.length) (h : data.HasAt i old) :
    total (data.overwrite i new) + total old = total data + total new := by
  rcases h.within with rfl | hinside
  · obtain rfl := List.length_eq_zero_iff.mp hsame
    rw [h.overwrite_self]
  · have hfront : (data.take i).length % 2 = 0 := by
      rw [List.length_take]
      omega
    have sent := total_between hfront hwhole (data.drop (i + old.length))
    have seen := total_between hfront (hsame ▸ hwhole) (data.drop (i + new.length))
    rw [← Bytes.overwrite] at sent seen
    rw [h.overwrite_self] at sent
    rw [seen, sent, hsame]
    omega

theorem sumWords_append {a : Bytes} (heven : a.length % 2 = 0) (b : Bytes) (sum : UInt32) :
    sumWords (a ++ b) sum = sumWords b (sumWords a sum) := by
  fun_induction sumWords a sum with
  | case1 hi lo rest sum ih =>
    have rest_even : rest.length % 2 = 0 := by simp only [List.length_cons] at heven; omega
    rw [List.cons_append, List.cons_append, sumWords, ih rest_even]
  | case2 => simp at heven
  | case3 => rfl

theorem toNat_sumWords (data : Bytes) (sum : UInt32) :
    (sumWords data sum).toNat = (sum.toNat + total data) % 4294967296 := by
  fun_induction sumWords data sum with
  | case1 hi lo rest sum ih =>
    rw [ih, UInt32.toNat_add, UInt16.toNat_toUInt32, toNat_word16, total_cons_cons]
    omega
  | case2 last sum =>
    rw [UInt32.toNat_add, UInt16.toNat_toUInt32, toNat_word16]
    simp [total]
  | case3 sum =>
    have h := sum.toNat_lt
    rw [total_nil]
    omega

/-! ## Checksums -/

theorem toNat_checksumWith (data : Bytes) (sum : UInt32) : (checksumWith data sum).toNat =
    65535 - carry (carry ((sum.toNat + total data) % 4294967296)) := by
  rw [checksumWith, toNat_complement, toNat_fold, toNat_sumWords]

section Sums

variable {data before after : Bytes} {sum : UInt32}

/-- The checksum is the word that makes up, with sum and total of the bytes, a multiple of 65535. Of
the two zeros it is the one with all bits only if there is nothing to sum. -/
theorem checksumWith_eq_iff (hroom : sum.toNat + total data < 4294967296) {w : UInt16} :
    checksumWith data sum = w ↔
      (w.toNat + (sum.toNat + total data)) % 65535 = 0 ∧
        (w.toNat = 65535 ↔ sum.toNat + total data = 0) := by
  have w_lt := w.toNat_lt
  have fits := (fold (sumWords data sum)).toNat_lt
  have hsame := fold_mod (sumWords data sum)
  have zero := fold_eq_zero_iff (sumWords data sum)
  rw [toNat_sumWords, Nat.mod_eq_of_lt hroom] at hsame zero
  rw [checksumWith, ← UInt16.toNat_inj, toNat_complement]
  omega

theorem onesAdd_mod (a b : UInt16) : (onesAdd a b).toNat % 65535 = (a.toNat + b.toNat) % 65535 := by
  have ha := a.toNat_lt
  have hb := b.toNat_lt
  rw [onesAdd, fold_mod, UInt32.toNat_add, UInt16.toNat_toUInt32, UInt16.toNat_toUInt32]
  omega

theorem onesAdd_eq_zero_iff (a b : UInt16) :
    (onesAdd a b).toNat = 0 ↔ a.toNat = 0 ∧ b.toNat = 0 := by
  have ha := a.toNat_lt
  have hb := b.toNat_lt
  rw [onesAdd, fold_eq_zero_iff, UInt32.toNat_add, UInt16.toNat_toUInt32, UInt16.toNat_toUInt32]
  omega

/-- The total of bytes around a word at an even index. -/
theorem total_around (heven : before.length % 2 = 0) (w : UInt16) :
    total (before ++ octets16 w ++ after) = total before + w.toNat + total after := by
  rw [total_between heven (by simp), total_octets16]

/-- The spare word brings the checksum to any wished value but all ones. -/
theorem checksumWith_compensate_iff (heven : before.length % 2 = 0)
    (hroom : sum.toNat + total (before ++ octets16 0 ++ after) + 65535 < 4294967296)
    (wished : UInt16) :
    checksumWith (before ++ octets16 (compensate
      (checksumWith (before ++ octets16 0 ++ after) sum) wished) ++ after) sum = wished ↔
        wished ≠ 0xFFFF := by
  obtain ⟨natural, ones⟩ := (checksumWith_eq_iff (by omega)).mp
    (rfl : checksumWith (before ++ octets16 0 ++ after) sum = _)
  generalize checksumWith (before ++ octets16 0 ++ after) sum = current at *
  have wished_lt := wished.toNat_lt
  have spare_lt := (compensate current wished).toNat_lt
  have hspare := onesAdd_mod (~~~ wished) current
  have spare_zero := onesAdd_eq_zero_iff (~~~ wished) current
  rw [toNat_complement] at hspare spare_zero
  rw [← compensate] at hspare spare_zero
  rw [total_around heven, UInt16.toNat_zero] at hroom natural ones
  have limit : wished ≠ 0xFFFF ↔ wished.toNat ≠ 65535 := not_congr UInt16.toNat_inj.symm
  rw [checksumWith_eq_iff (by rw [total_around heven]; omega), total_around heven, limit]
  omega

end Sums

section Short

variable {data before after : Bytes}

theorem toNat_sumWords_zero (hshort : data.length < 131072) :
    (sumWords data 0).toNat = total data := by
  have := total_lt hshort
  rw [toNat_sumWords, UInt32.toNat_zero]
  omega

/-- A checksum is what the total of the bytes lacks to a multiple of 65535. -/
theorem checksum_add_total (hshort : data.length < 131072) :
    ((checksum data).toNat + total data) % 65535 = 0 := by
  have hroom := total_lt hshort
  have hwhole := ((checksumWith_eq_iff (by simpa using hroom)).mp (rfl : checksum data = _)).1
  rwa [UInt32.toNat_zero, Nat.zero_add] at hwhole

/-- Only bytes without any bit have a checksum of all ones. -/
theorem checksum_eq_ones_iff (hshort : data.length < 131072) :
    (checksum data).toNat = 65535 ↔ total data = 0 := by
  have hroom := total_lt hshort
  have ones := ((checksumWith_eq_iff (by simpa using hroom)).mp (rfl : checksum data = _)).2
  rwa [UInt32.toNat_zero, Nat.zero_add] at ones

theorem verify_iff (hshort : data.length < 131072) :
    verify data = true ↔ 0 < total data ∧ total data % 65535 = 0 := by
  have fits := (fold (sumWords data 0)).toNat_lt
  have hsame := fold_mod (sumWords data 0)
  have zero := fold_eq_zero_iff (sumWords data 0)
  rw [toNat_sumWords_zero hshort] at hsame zero
  rw [verify, beq_iff_eq, ← UInt16.toNat_inj]
  show (fold (sumWords data 0)).toNat = 65535 ↔ _
  omega

/-- Bytes that pass the test are cut off after a whole word: those that are left pass it just if the
missing ones add up to nothing modulo 65535. -/
theorem verify_take_iff (hshort : data.length < 131072) (hvalid : verify data = true) {n : Nat}
    (heven : n % 2 = 0) (hpos : 0 < total (data.take n)) :
    verify (data.take n) = true ↔ total (data.drop n) % 65535 = 0 := by
  obtain ⟨-, hwhole⟩ := (verify_iff hshort).mp hvalid
  by_cases hroom : n ≤ data.length
  · have haligned : (data.take n).length % 2 = 0 := by
      rw [List.length_take, Nat.min_eq_left hroom]
      exact heven
    have parts := total_append haligned (data.drop n)
    rw [List.take_append_drop] at parts
    have short' : (data.take n).length < 131072 :=
      Nat.lt_of_le_of_lt (List.length_take_le' n data) hshort
    rw [verify_iff short']
    omega
  · have all : data.length ≤ n := Nat.le_of_not_le hroom
    simp only [List.take_of_length_le all, List.drop_eq_nil_of_le all, hvalid, total_nil]

/-- Bytes in which a word makes up what their total lacks to a multiple of 65535 pass the test. -/
theorem verify_of_add_total (heven : before.length % 2 = 0)
    (hshort : (before ++ octets16 0 ++ after).length < 131072) {sum : UInt16}
    (hwhole : (sum.toNat + total (before ++ octets16 0 ++ after)) % 65535 = 0)
    (hpos : 0 < sum.toNat + total (before ++ octets16 0 ++ after)) :
    verify (before ++ octets16 sum ++ after) = true := by
  rw [total_around heven, UInt16.toNat_zero] at hwhole hpos
  rw [verify_iff (by simpa using hshort), total_around heven]
  omega

/-- Bytes that are given their checksum pass the test. -/
theorem verify_seal (heven : before.length % 2 = 0)
    (hshort : (before ++ octets16 0 ++ after).length < 131072) :
    verify (before ++ octets16 (checksum (before ++ octets16 0 ++ after)) ++ after) = true := by
  have ones := checksum_eq_ones_iff hshort
  exact verify_of_add_total heven hshort (checksum_add_total hshort) (by omega)

/-- The spare word brings the checksum of some bytes to any wished value but all ones. -/
theorem checksum_compensate (heven : before.length % 2 = 0)
    (hshort : (before ++ octets16 0 ++ after).length < 131072) {wished : UInt16}
    (hw : wished.toNat < 65535) :
    checksum (before ++
      octets16 (compensate (checksum (before ++ octets16 0 ++ after)) wished) ++ after) =
        wished := by
  have bound := total_le (before ++ octets16 0 ++ after)
  refine (checksumWith_compensate_iff heven ?_ wished).mpr ?_
  · rw [UInt32.toNat_zero]
    omega
  · rintro rfl
    exact absurd hw (by decide)

end Short

/-! ## Pseudo-headers -/

/-- The bytes in front of a datagram that its checksum covers too: both addresses, the length and
the protocol. -/
def pseudoHeader (src dst : Address) (protocol : UInt8) (length : Nat) : Bytes :=
  src.octets ++ (dst.octets ++
    match dst.family with
    | .ipv4 => [0, protocol] ++ octets16 (UInt16.ofNat length)
    | .ipv6 => octets32 (UInt32.ofNat length) ++ [0, 0, 0, protocol])

theorem length_octets_mod (a : Address) : a.octets.length % 2 = 0 := by
  cases a <;> simp

theorem length_pseudoHeader (src dst : Address) (protocol : UInt8) (length : Nat) :
    (pseudoHeader src dst protocol length).length % 2 = 0 ∧
      (pseudoHeader src dst protocol length).length ≤ 40 := by
  cases src <;> cases dst <;> simp [pseudoHeader, Address.family]

/-- The source address adds its own words to the total of a pseudo-header. -/
theorem exists_total_pseudoHeader (dst : Address) (protocol : UInt8) (length : Nat) :
    ∃ n, ∀ src, total (pseudoHeader src dst protocol length) = total src.octets + n :=
  ⟨_, fun src => total_append (length_octets_mod src) _⟩

/-- The sum of a pseudo-header stands for its bytes. -/
theorem sumWords_pseudoHeader {src dst : Address} (h : src.family = dst.family) (protocol : UInt8)
    (length : Nat) :
    sumWords (pseudoHeader src dst protocol length) 0 =
      pseudoHeaderSum src dst protocol length := by
  rw [pseudoHeader, sumWords_append (length_octets_mod src),
    sumWords_append (length_octets_mod dst)]
  have low : (word16 0 protocol).toUInt32 = protocol.toUInt32 := by
    rw [← UInt32.toNat_inj, UInt16.toNat_toUInt32, toNat_word16, UInt8.toNat_toUInt32]
    simp
  cases src <;> cases dst <;> simp only [Address.family, reduceCtorEq] at h
  · have size : (UInt16.ofNat length).toUInt32 =
        UInt32.ofNat ((UInt32.ofNat length).toNat % 65536) := by
      rw [← UInt32.toNat_inj]
      simp only [UInt16.toNat_toUInt32, UInt16.toNat_ofNat', UInt32.toNat_ofNat']
      omega
    simp only [Address.family, octets16, List.cons_append, List.nil_append, sumWords, word16_octets,
      low, size, pseudoHeaderSum]
  · generalize hn : UInt32.ofNat length = size
    have fits := size.toNat_lt
    have upper : (word16 (UInt8.ofNat (size.toNat / 16777216))
        (UInt8.ofNat (size.toNat / 65536 % 256))).toUInt32 = UInt32.ofNat (size.toNat / 65536) := by
      rw [← UInt32.toNat_inj]
      simp only [UInt16.toNat_toUInt32, toNat_word16, UInt8.toNat_ofNat', UInt32.toNat_ofNat']
      omega
    have lower : (word16 (UInt8.ofNat (size.toNat / 256 % 256))
        (UInt8.ofNat (size.toNat % 256))).toUInt32 = UInt32.ofNat (size.toNat % 65536) := by
      rw [← UInt32.toNat_inj]
      simp only [UInt16.toNat_toUInt32, toNat_word16, UInt8.toNat_ofNat', UInt32.toNat_ofNat']
      omega
    have none : (word16 0 0).toUInt32 = 0 := rfl
    simp only [Address.family, octets32, List.cons_append, List.nil_append, sumWords, upper, lower,
      low, none, UInt32.add_zero, pseudoHeaderSum, hn]

/-- A checksum on top of the sum of a pseudo-header is one over the bytes of both. -/
theorem checksumWith_pseudoHeaderSum {src dst : Address} (h : src.family = dst.family)
    (protocol : UInt8) (length : Nat) (data : Bytes) :
    checksumWith data (pseudoHeaderSum src dst protocol length) =
      checksum (pseudoHeader src dst protocol length ++ data) := by
  rw [checksum, checksumWith, checksumWith, sumWords_append (length_pseudoHeader ..).1,
    sumWords_pseudoHeader h]

/-- What a pseudo-header adds stays below `2 ^ 21`. -/
theorem pseudoHeaderSum_lt (src dst : Address) (protocol : UInt8) (length : Nat) :
    (pseudoHeaderSum src dst protocol length).toNat < 2097152 := by
  by_cases h : src.family = dst.family
  · have hfew := (length_pseudoHeader src dst protocol length).2
    have bound := total_le (pseudoHeader src dst protocol length)
    rw [← sumWords_pseudoHeader h, toNat_sumWords_zero (by omega)]
    omega
  · have none : pseudoHeaderSum src dst protocol length = 0 := by
      cases src <;> cases dst <;> first | exact absurd rfl h | rfl
    rw [none]
    decide

/-! ## Patches -/

theorem toNat_sumComplements {data : Bytes} (heven : data.length % 2 = 0) (sum : UInt32)
    (hroom : sum.toNat + 65535 * (data.length / 2) < 4294967296) :
    (sumComplements data sum).toNat + total data = sum.toNat + 65535 * (data.length / 2) := by
  fun_induction sumComplements data sum with
  | case1 hi lo rest sum ih =>
    have w := (word16 hi lo).toNat_lt
    have added : (sum + (~~~ word16 hi lo).toUInt32).toNat =
        sum.toNat + (65535 - (word16 hi lo).toNat) := by
      simp only [List.length_cons] at hroom
      rw [UInt32.toNat_add, UInt16.toNat_toUInt32, toNat_complement]
      omega
    simp only [List.length_cons] at heven hroom
    -- No step wraps around, as `hroom` bounds the sum of all complements.
    have step := ih (by omega) (by omega)
    rw [total_cons_cons, ← toNat_word16, List.length_cons, List.length_cons]
    omega
  | case2 data sum hshort =>
    cases data with
    | nil => rfl
    | cons hi data =>
      cases data with
      | nil => simp at heven
      | cons lo rest => exact absurd rfl (hshort hi lo rest)

/-- A checksum is adjusted to a change of covered bytes. All ones, which stand for a sum without any
bit, come out only if nothing else is summed. -/
structure Adjusts (old new : Bytes) (before after : UInt16) : Prop where
  moved : (after.toNat + total new) % 65535 = (before.toNat + total old) % 65535
  ones : after.toNat = 65535 ↔
    before.toNat = 65535 ∧ total old = 65535 * (old.length / 2) ∧ total new = 0

/-- There is one way to adjust a checksum. -/
theorem Adjusts.eq {old new : Bytes} {before after after' : UInt16}
    (h : Adjusts old new before after) (h' : Adjusts old new before after') : after = after' := by
  have lt := after.toNat_lt
  have lt' := after'.toNat_lt
  have moved := h.moved
  have moved' := h'.moved
  have ones := h.ones.trans h'.ones.symm
  apply UInt16.toNat_inj.mp
  omega

/-- Undoing a patch adjusts the checksum from the bytes that were seen to those that were sent. -/
theorem adjusts_undoPatch (seen : UInt16) {sent was : Bytes} (heven : was.length % 2 = 0)
    (hshort : sent.length + was.length < 131072) :
    Adjusts was sent seen (undoPatch seen sent was) := by
  have seen_lt := seen.toNat_lt
  have start : (~~~ seen).toUInt32.toNat = 65535 - seen.toNat := by
    rw [UInt16.toNat_toUInt32, toNat_complement]
  have off := toNat_sumComplements heven (~~~ seen).toUInt32 (by omega)
  have sent_le := total_le sent
  have was_le := total_le was
  have sum := toNat_sumWords sent (sumComplements was (~~~ seen).toUInt32)
  have hsame := fold_mod (sumWords sent (sumComplements was (~~~ seen).toUInt32))
  have zero := fold_eq_zero_iff (sumWords sent (sumComplements was (~~~ seen).toUInt32))
  have fits := (fold (sumWords sent (sumComplements was (~~~ seen).toUInt32))).toNat_lt
  constructor <;> rw [undoPatch, toNat_complement] <;> omega

end Checksum

end FlowTrace
