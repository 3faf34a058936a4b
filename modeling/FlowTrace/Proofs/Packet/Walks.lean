import FlowTrace.Proofs.Returns
import FlowTrace.Response

/-!
# Loops over received bytes

Offsets and sizes in a received packet come from its own bytes. Each loop over it is stated here as
the round that it repeats, with the variables that it changes as its state.

- **Extension headers of IPv6** (`QuotedPacket.walkHeaders_ends`): a round takes eight bytes or
  more.
- **Extension objects** (`Extensions.objectsFrom_ends`): a round takes four bytes or more.
- **Label stacks** (`Extensions.labelsOf_ends`): a round takes four bytes.
-/

namespace FlowTrace

/-! ## Extension headers of IPv6 -/

namespace QuotedPacket

/-- From the number and offset of a header to those of the header behind it, if it is one that tells
its length. -/
def nextHeader (data : Bytes) (s : UInt8 × Nat) : Except Fault (Option (UInt8 × Nat)) := do
  if isWalkable s.1 then
    if data.length < s.2 + 2 then return none
    let following ← data.byteAt s.2
    let units ← data.byteAt (s.2 + 1)
    return some (following, s.2 + (units.toNat + 1) * 8)
  else return none

/-- What the walk gives at the header where it stops: one that tells its length is cut off. -/
def reached (s : UInt8 × Nat) : Option (UInt8 × Nat) := if isWalkable s.1 then none else some s

theorem finds_nextHeader (data : Bytes) (s : UInt8 × Nat) :
    Finds (nextHeader data s) fun t => data.length + 6 - t.2 + 8 ≤ data.length + 6 - s.2 := by
  refine .ite (fun _ => .ite (fun _ => .nothing) fun hroom => ?_) fun _ => .nothing
  refine .read (Bytes.returns_byteAt (by omega)) fun _ _ => ?_
  refine .read (Bytes.returns_byteAt (by omega)) fun units _ => ?_
  exact .one (by dsimp only; omega)

theorem loop_walkHeaders (data : Bytes) :
    Loop (nextHeader data) reached fun s => walkHeaders data s.1 s.2 := by
  intro s
  change walkHeaders data s.1 s.2 = _
  rw [walkHeaders, nextHeader, reached]
  by_cases walkable : isWalkable s.1
  · rw [if_pos walkable, if_pos walkable, if_pos walkable]
    by_cases cut : data.length < s.2 + 2
    · rw [dif_pos cut, if_pos cut]
      rfl
    · rw [dif_neg cut, if_neg cut]
      simp only [bind_assoc, pure_bind, Option.elim_some]
  · rw [if_neg walkable, if_neg walkable, if_neg walkable]
    rfl

/-- The walk ends, and each of its rounds takes eight bytes or more. -/
theorem walkHeaders_ends (data : Bytes) (next : UInt8) (offset : Nat) :
    ∃ n last, Ends (nextHeader data) n (next, offset) last ∧ n * 8 ≤ data.length + 6 - offset ∧
      walkHeaders data next offset = .ok (reached last) :=
  (loop_walkHeaders data).ends (by decide) _ (finds_nextHeader data) (next, offset)

end QuotedPacket

namespace Packet.Extensions

/-! ## Extension objects -/

/-- From the objects so far and the offset behind them to those with the next object, if there is a
whole one. -/
def nextObject (data : Bytes) (s : List ExtensionObject × Nat) :
    Except Fault (Option (List ExtensionObject × Nat)) := do
  if data.length < s.2 + objectHeaderSize then return none
  let size ← data.word16At s.2
  let classNum ← data.byteAt (s.2 + 2)
  let classSubtype ← data.byteAt (s.2 + 3)
  if size.toNat < objectHeaderSize ∨ data.length < s.2 + size.toNat then return none
  let body ← data.slice (s.2 + objectHeaderSize) (s.2 + size.toNat)
  return some (s.1 ++ (object? classNum classSubtype body).toList, s.2 + size.toNat)

theorem finds_nextObject (data : Bytes) (s : List ExtensionObject × Nat) :
    Finds (nextObject data s) fun t => data.length - t.2 + 4 ≤ data.length - s.2 := by
  simp only [nextObject, objectHeaderSize]
  refine .ite (fun _ => .nothing) fun header => ?_
  refine .read (Bytes.returns_word16At (by omega)) fun size _ => ?_
  refine .read (Bytes.returns_byteAt (by omega)) fun _ _ => ?_
  refine .read (Bytes.returns_byteAt (by omega)) fun _ _ => ?_
  refine .ite (fun _ => .nothing) fun whole => ?_
  refine .read ⟨_, Bytes.slice_of_le (by omega) (by omega), trivial⟩ fun _ (_ : True) => ?_
  exact .one (by dsimp only; omega)

theorem loop_objectsFrom (data : Bytes) :
    Loop (nextObject data) Prod.fst fun s => (s.1 ++ ·) <$> objectsFrom data s.2 := by
  intro s
  change (s.1 ++ ·) <$> objectsFrom data s.2 = _
  rw [objectsFrom, nextObject]
  by_cases header : s.2 + objectHeaderSize ≤ data.length
  · rw [dif_pos header, if_neg (Nat.not_lt.mpr header)]
    simp only [map_bind, bind_assoc]
    refine bind_congr fun size => bind_congr fun classNum => bind_congr fun classSubtype => ?_
    by_cases cut : size.toNat < objectHeaderSize ∨ data.length < s.2 + size.toNat
    · rw [dif_pos cut, if_pos cut]
      exact congrArg Except.ok (List.append_nil _)
    · rw [dif_neg cut, if_neg cut]
      simp only [map_eq_pure_bind, bind_assoc, pure_bind, List.append_assoc, Option.elim_some]
  · rw [dif_neg header, if_pos (Nat.lt_of_not_le header)]
    exact congrArg Except.ok (List.append_nil _)

/-- The walk ends with the objects that its rounds found, and each round takes four bytes or
more. -/
theorem objectsFrom_ends (data : Bytes) (offset : Nat) :
    ∃ n last, Ends (nextObject data) n ([], offset) last ∧ n * 4 ≤ data.length - offset ∧
      objectsFrom data offset = .ok last.1 := by
  obtain ⟨n, last, ends, bound, found⟩ :=
    (loop_objectsFrom data).ends (by decide) _ (finds_nextObject data) ([], offset)
  exact ⟨n, last, ends, bound, by simpa using found⟩

/-! ## Label stacks -/

/-- From the labels so far and the bytes behind them to those with the label in the next whole word.
There is none behind the last one of the stack. -/
def nextLabel : List MplsLabel × Bytes → Except Fault (Option (List MplsLabel × Bytes))
  | (labels, a :: b :: c :: d :: rest) =>
    let label := MplsLabel.ofWord (word32 a b c d)
    .ok (some (labels ++ [label], if label.bottom then [] else rest))
  | _ => .ok none

theorem finds_nextLabel (s : List MplsLabel × Bytes) :
    Finds (nextLabel s) fun t => t.2.length + 4 ≤ s.2.length := by
  fun_cases nextLabel s with
  | case1 labels a b c d rest label =>
    refine .one ?_
    cases label.bottom <;> simp
  | case2 => exact .nothing

theorem loop_labelsOf : Loop nextLabel Prod.fst fun s => .ok (s.1 ++ labelsOf s.2) := by
  intro s
  fun_cases nextLabel s with
  | case1 labels a b c d rest label =>
    refine congrArg Except.ok ?_
    dsimp only
    rw [labelsOf]
    by_cases last : label.bottom
    · rw [if_pos last, if_pos last]
      exact (List.append_nil _).symm
    · rw [if_neg last, if_neg last, List.append_cons]
  | case2 s hshort =>
    have none : labelsOf s.2 = [] := by
      unfold labelsOf
      split
      · next h => exact (hshort s.1 _ _ _ _ _ (Prod.ext rfl h)).elim
      · rfl
    exact congrArg Except.ok (none ▸ List.append_nil _)

/-- The walk ends with the labels that its rounds found, and each round takes four bytes. -/
theorem labelsOf_ends (body : Bytes) :
    ∃ n last, Ends nextLabel n ([], body) last ∧ n * 4 ≤ body.length ∧ labelsOf body = last.1 := by
  obtain ⟨n, last, ends, bound, found⟩ :=
    loop_labelsOf.ends (by decide) _ finds_nextLabel ([], body)
  exact ⟨n, last, ends, bound, Except.ok.inj found⟩

end Packet.Extensions

end FlowTrace
