import FlowTrace.Address
import FlowTrace.Proofs.Bytes

/-!
# Computations that do not fault

`Returns x P`: the computation `x` ends with a value, not with a fault, and `P` holds of the value.
`Finds x P` is the same for a search: it ends with nothing or with a value of which `P` holds. Both
follow the structure of a computation (`bind`, `ite`).

Reads within the bytes return (`returns_byteAt`, `returns_word16At`, `returns_word32At`,
`returns_suffix`). A loop (`Loop`, `Ends`) whose rounds return and lower a measure ends with its
result, and the measure bounds the number of its rounds (`Loop.ends`).
-/

namespace FlowTrace

variable {α β : Type} {x y : Except Fault α} {P P' : α → Prop}

/-- No fault, and a value of which `P` holds. -/
def Returns (x : Except Fault α) (P : α → Prop) : Prop := ∃ a, x = .ok a ∧ P a

namespace Returns

variable {Q : β → Prop} {f : α → Except Fault β}

theorem ret {a : α} (h : P a) : Returns (pure a) P := ⟨a, rfl, h⟩

theorem mono (h : Returns x P) (k : ∀ a, P a → P' a) : Returns x P' := by
  obtain ⟨a, rfl, ha⟩ := h
  exact ⟨a, rfl, k a ha⟩

theorem bind (h : Returns x P) (k : ∀ a, P a → Returns (f a) Q) : Returns (x >>= f) Q := by
  obtain ⟨a, rfl, ha⟩ := h
  exact k a ha

theorem ite {c : Prop} [Decidable c] (hx : c → Returns x P) (hy : ¬ c → Returns y P) :
    Returns (if c then x else y) P := by
  by_cases hc : c
  · rw [if_pos hc]
    exact hx hc
  · rw [if_neg hc]
    exact hy hc

theorem of_exists (h : ∃ a, x = .ok a) : Returns x fun _ => True := by
  obtain ⟨a, rfl⟩ := h
  exact ⟨a, rfl, trivial⟩

/-- What a computation returned has the property. -/
theorem holds {a : α} (h : Returns x P) (e : x = .ok a) : P a := by
  obtain ⟨b, rfl, hb⟩ := h
  cases e
  exact hb

end Returns

/-- No fault, and nothing or a value of which `P` holds. -/
def Finds (x : Except Fault (Option α)) (P : α → Prop) : Prop :=
  Returns x fun found => ∀ a ∈ found, P a

namespace Finds

variable {x y : Except Fault (Option α)} {Q : β → Prop}

theorem nothing : Finds (pure none) P := .ret fun _ h => by cases h

theorem one {a : α} (h : P a) : Finds (pure (some a)) P :=
  .ret fun _ e => Option.some.inj e ▸ h

theorem mono (h : Finds x P) (k : ∀ a, P a → P' a) : Finds x P' :=
  Returns.mono h fun _ found a ha => k a (found a ha)

theorem ite {c : Prop} [Decidable c] (hx : c → Finds x P) (hy : ¬ c → Finds y P) :
    Finds (if c then x else y) P := Returns.ite hx hy

/-- A search behind a read. -/
theorem read {R : β → Prop} {e : Except Fault β} {f : β → Except Fault (Option α)}
    (h : Returns e R) (k : ∀ b, R b → Finds (f b) P) : Finds (e >>= f) P := Returns.bind h k

/-- A search behind a search: it goes on with what the first one found. -/
theorem bind {f : Option α → Except Fault (Option β)} (h : Finds x P) (absent : Finds (f none) Q)
    (k : ∀ a, P a → Finds (f (some a)) Q) : Finds (x >>= f) Q :=
  Returns.bind h fun found hfound => by
    cases found with
    | none => exact absent
    | some a => exact k a (hfound a rfl)

end Finds

/-! ## Loops -/

section

variable {σ : Type} {next : σ → Except Fault (Option σ)}

/-- A loop makes so many rounds from one state and stops in the other, without a fault. -/
inductive Ends (next : σ → Except Fault (Option σ)) : Nat → σ → σ → Prop
  | stop {s : σ} (h : next s = .ok none) : Ends next 0 s s
  | round {n : Nat} {s t u : σ} (h : next s = .ok (some t)) (rest : Ends next n t u) :
    Ends next (n + 1) s u

/-- The function `run` repeats a round as long as there is one, and then gives its result. -/
def Loop (next : σ → Except Fault (Option σ)) (result : σ → α) (run : σ → Except Fault α) : Prop :=
  ∀ s, run s = next s >>= fun t? => t?.elim (.ok (result s)) run

/-- A loop ends if every round returns and lowers a measure by `k` or more. -/
theorem exists_ends {k : Nat} (hpos : 0 < k) (measure : σ → Nat)
    (lowers : ∀ s, Finds (next s) fun t => measure t + k ≤ measure s) (s : σ) :
    ∃ n t, Ends next n s t ∧ n * k ≤ measure s := by
  -- on the measure of the state, which is what is left for further rounds
  induction hm : measure s using Nat.strongRecOn generalizing s with
  | _ m ih =>
    obtain ⟨found, h, lower⟩ := lowers s
    cases found with
    | none => exact ⟨0, s, .stop h, by omega⟩
    | some t =>
      have lower := lower t rfl
      obtain ⟨n, u, ends, bound⟩ := ih (measure t) (by omega) t rfl
      exact ⟨n + 1, u, .round h ends, by rw [Nat.succ_mul]; omega⟩

theorem Loop.run_eq {result : σ → α} {run : σ → Except Fault α} (loop : Loop next result run)
    {n : Nat} {s t : σ} (ends : Ends next n s t) : run s = .ok (result t) := by
  induction ends with
  | stop h =>
    rw [loop, h]
    rfl
  | round h _ ih =>
    rw [loop, h]
    exact ih

/-- A loop whose rounds return and lower a measure ends, and gives the result of its last state. -/
theorem Loop.ends {result : σ → α} {run : σ → Except Fault α} (loop : Loop next result run)
    {k : Nat} (hpos : 0 < k) (measure : σ → Nat)
    (lowers : ∀ s, Finds (next s) fun t => measure t + k ≤ measure s) (s : σ) :
    ∃ n t, Ends next n s t ∧ n * k ≤ measure s ∧ run s = .ok (result t) := by
  obtain ⟨n, t, ends, bound⟩ := exists_ends hpos measure lowers s
  exact ⟨n, t, ends, bound, loop.run_eq ends⟩

end

/-! ## Reads within the bytes -/

namespace Bytes

variable {data : Bytes}

theorem returns_byteAt {i : Nat} (h : i < data.length) :
    Returns (data.byteAt i) fun b => data[i]? = some b :=
  have found : data[i]? = some data[i] := List.getElem?_eq_getElem h
  ⟨data[i], byteAt_of_getElem? found, found⟩

theorem returns_word16At {i : Nat} (h : i + 2 ≤ data.length) :
    Returns (data.word16At i) fun _ => True :=
  .of_exists (exists_word16At i h)

theorem returns_word32At {i : Nat} (h : i + 4 ≤ data.length) :
    Returns (data.word32At i) fun _ => True :=
  (returns_byteAt (by omega)).bind fun _ _ => (returns_byteAt (by omega)).bind fun _ _ =>
    (returns_byteAt (by omega)).bind fun _ _ => (returns_byteAt (by omega)).bind fun _ _ =>
      .ret trivial

theorem returns_suffix {i : Nat} (h : i ≤ data.length) :
    Returns (data.suffix i) fun rest => rest = data.drop i := ⟨_, suffix_of_le h, rfl⟩

end Bytes

namespace Address

variable {data : Bytes}

theorem returns_readV4 {i : Nat} (h : i + 4 ≤ data.length) :
    Returns (readV4 data i) fun a => a.family = .ipv4 :=
  (Bytes.returns_byteAt (by omega)).bind fun _ _ => (Bytes.returns_byteAt (by omega)).bind
    fun _ _ => (Bytes.returns_byteAt (by omega)).bind fun _ _ =>
      (Bytes.returns_byteAt (by omega)).bind fun _ _ => .ret rfl

theorem returns_readV6 {i : Nat} (h : i + 16 ≤ data.length) :
    Returns (readV6 data i) fun a => a.family = .ipv6 := by
  have size : ((data.drop i).take (i + 16 - i)).length = 16 := by
    rw [List.length_take, List.length_drop]
    omega
  refine ⟨.v6 ⟨((data.drop i).take (i + 16 - i)).toArray, by simpa using size⟩, ?_, rfl⟩
  rw [readV6, Bytes.slice_of_le (by omega) h]
  exact dif_pos size

end Address

end FlowTrace
