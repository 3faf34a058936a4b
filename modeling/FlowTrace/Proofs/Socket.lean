import FlowTrace.Socket

/-!
# What was asked of a host

- **Runs** (`HostM.bind_ok`, `perform_ok`, `openSocket_ok`): how a computation on a host comes to a
  value. A call leaves the host with one more record (`Host.after`).
- **Calls made** (`HostM.Makes`): all calls of a computation have a property, however it ends.
- **Logs**: what a list of records, latest first, tells about a socket: the call that made it
  (`origin?`), what it is bound to (`bound?`) and the hop limit that was set last (`limit?`).
- **Departures** (`Departure`): the packets handed over in a log, each with the calls before it and
  the hop limit with which it leaves (`Departure.hops?`).
-/

namespace FlowTrace

variable {ε α β : Type}

/-- The host after one more call. -/
def Host.after (h : Host) (call : SocketCall) : Host :=
  { h with records := ⟨call, h.failureOf call⟩ :: h.records }

@[simp] theorem Host.records_after (h : Host) (call : SocketCall) :
    (h.after call).records = ⟨call, h.failureOf call⟩ :: h.records := rfl

namespace HostM

variable {h h' : Host} {call : SocketCall} {wording : IoFailure → ε}

/-! ## Runs -/

theorem run_bind (x : HostM ε α) (f : α → HostM ε β) (h : Host) :
    (x >>= f).run h =
      match x.run h with
      | (.ok a, h₁) => (f a).run h₁
      | (.error e, h₁) => (.error e, h₁) := by
  rw [ExceptT.run_bind]
  simp only [bind, StateT.bind]
  rcases x.run h with ⟨_ | _, h₁⟩ <;> rfl

theorem run_get_bind (f : Host → HostM ε α) (h : Host) : (get >>= f).run h = (f h).run h := rfl

theorem run_attempt (call : SocketCall) (h : Host) :
    (attempt call : HostM ε Unit).run h = (.ok (), h.after call) := rfl

theorem run_perform (call : SocketCall) (wording : IoFailure → ε) (h : Host) :
    (perform call wording).run h =
      ((h.failureOf call).elim (.ok ()) fun f => .error (wording f), h.after call) := by
  rw [perform, run_get_bind, run_bind, run_attempt]
  cases h.failureOf call <;> rfl

/-- A computation in two parts has a value if both have. -/
theorem bind_ok {x : HostM ε α} {f : α → HostM ε β} {b : β}
    (e : (x >>= f).run h = (.ok b, h')) :
    ∃ a h₁, x.run h = (.ok a, h₁) ∧ (f a).run h₁ = (.ok b, h') := by
  rw [run_bind] at e
  rcases hx : x.run h with ⟨_ | a, h₁⟩
  · rw [hx] at e
    cases e
  · rw [hx] at e
    exact ⟨a, h₁, rfl, e⟩

theorem pure_ok {a b : α} (e : (pure a : HostM ε α).run h = (.ok b, h')) : b = a ∧ h' = h := by
  cases e
  exact ⟨rfl, rfl⟩

theorem perform_ok {u : Unit} (e : (perform call wording).run h = (.ok u, h')) :
    h.failureOf call = none ∧ h' = h.after call := by
  rw [run_perform] at e
  cases hf : h.failureOf call with
  | none =>
    rw [hf] at e
    exact ⟨rfl, (congrArg Prod.snd e).symm⟩
  | some f =>
    rw [hf] at e
    cases e

/-- A new socket has the next number. -/
theorem openSocket_ok {id : Nat} (e : (openSocket call wording).run h = (.ok id, h')) :
    h.failureOf call = none ∧ h' = h.after call ∧ id = h.socketCount := by
  rw [openSocket, run_get_bind] at e
  obtain ⟨_, _, performed, e⟩ := bind_ok e
  obtain ⟨fine, rfl⟩ := perform_ok performed
  obtain ⟨rfl, rfl⟩ := pure_ok e
  exact ⟨fine, rfl, rfl⟩

/-! ## Calls made -/

/-- However a computation ends, all calls that it makes have a property. -/
def Makes (P : SocketCall → Prop) (x : HostM ε α) : Prop :=
  ∀ h : Host, ∃ made, (x.run h).2.records = made ++ h.records ∧ ∀ r ∈ made, P r.call

namespace Makes

variable {P : SocketCall → Prop} {x : HostM ε α}

theorem ret (a : α) : Makes P (pure a : HostM ε α) := fun _ => ⟨[], rfl, by simp⟩

theorem fail (e : ε) : Makes P (throw e : HostM ε α) := fun _ => ⟨[], rfl, by simp⟩

theorem mono {Q : SocketCall → Prop} (hx : Makes P x) (k : ∀ call, P call → Q call) :
    Makes Q x := fun h => (hx h).imp fun _ => And.imp_right fun all r hr => k r.call (all r hr)

theorem get_bind {f : Host → HostM ε α} (k : ∀ host, Makes P (f host)) :
    Makes P (get >>= f) := fun h => k h h

theorem bind {f : α → HostM ε β} (hx : Makes P x) (k : ∀ a, Makes P (f a)) :
    Makes P (x >>= f) := by
  intro h
  obtain ⟨made, first, all⟩ := hx h
  rw [run_bind]
  rcases hx : x.run h with ⟨_ | a, h₁⟩ <;> rw [hx] at first
  · exact ⟨made, first, all⟩
  · obtain ⟨more, second, rest⟩ := k a h₁
    refine ⟨more ++ made, ?_, fun r hr => (List.mem_append.mp hr).elim (rest r) (all r)⟩
    rw [List.append_assoc, ← first]
    exact second

theorem attempt (hc : P call) : Makes P (attempt call : HostM ε Unit) := fun h =>
  ⟨[⟨call, h.failureOf call⟩], rfl, by simpa using hc⟩

theorem perform (hc : P call) : Makes P (perform call wording) := fun h =>
  ⟨[⟨call, h.failureOf call⟩], by rw [run_perform]; rfl, by simpa using hc⟩

theorem openSocket (hc : P call) : Makes P (openSocket call wording) :=
  get_bind fun _ => (perform hc).bind fun _ => ret _

theorem mapM {f : α → HostM ε β} (k : ∀ a, Makes P (f a)) (as : List α) :
    Makes P (as.mapM f) := by
  induction as with
  | nil => exact ret []
  | cons a as ih =>
    rw [List.mapM_cons]
    exact (k a).bind fun _ => ih.bind fun _ => ret _

end Makes

end HostM

/-! ## Logs -/

/-- Calls on a host, latest first. -/
abbrev SocketLog := List SocketRecord

namespace SocketCall

/-- What the call binds a socket to. -/
def binds? (socket : Nat) : SocketCall → Option (Address × Nat)
  | .bind id addr service => if id = socket then some (addr, service) else none
  | _ => none

/-- The hop limit that the call sets for the packets of a family that leave through a socket. -/
def limits? (family : Family) (socket : Nat) : SocketCall → Option Nat
  | .setTtl id hops => if family = .ipv4 ∧ id = socket then some hops else none
  | .setUnicastHops id hops => if family = .ipv6 ∧ id = socket then some hops else none
  | _ => none

/-- A raw socket whose packets bring their IPv4 header along. -/
def ownHeader : SocketCall := .socket .ipv4 .raw 255

end SocketCall

namespace SocketLog

variable {made log : SocketLog} {socket : Nat} {call : SocketCall}

/-- The calls that made sockets, in the order of the numbers of these. -/
def sockets (log : SocketLog) : List SocketCall :=
  ((log.filter fun r => r.call.opens && r.failure.isNone).map (·.call)).reverse

/-- The call that made a socket. -/
def origin? (log : SocketLog) (socket : Nat) : Option SocketCall := (sockets log)[socket]?

/-- What was found in the last call that did not fail and in which something is found. -/
def lastOf (find : SocketCall → Option α) (log : SocketLog) : Option α :=
  log.findSome? fun r => if r.failure.isNone then find r.call else none

/-- What a socket is bound to. -/
def bound? (log : SocketLog) (socket : Nat) : Option (Address × Nat) :=
  lastOf (·.binds? socket) log

/-- The hop limit that was set last on a socket for the packets of a family. -/
def limit? (log : SocketLog) (family : Family) (socket : Nat) : Option Nat :=
  lastOf (·.limits? family socket) log

/-- Sockets keep their numbers. -/
theorem origin?_append (h : origin? log socket = some call) :
    origin? (made ++ log) socket = some call := by
  have split : sockets (made ++ log) = sockets log ++ sockets made := by simp [sockets]
  have inside : socket < (sockets log).length := (List.getElem?_eq_some_iff.mp h).1
  rw [origin?, split, List.getElem?_append_left inside]
  exact h

/-- Calls that make no socket change the origin of none. -/
theorem origin?_cons {r : SocketRecord} (h : r.call.opens = false) :
    origin? (r :: log) socket = origin? log socket := by
  simp [origin?, sockets, h]

theorem length_sockets (h : Host) : (sockets h.records).length = h.socketCount := by
  simp [sockets, Host.socketCount, List.countP_eq_length_filter]

theorem lt_socketCount {h : Host} (found : origin? h.records socket = some call) :
    socket < h.socketCount := by
  rw [← length_sockets]
  exact (List.getElem?_eq_some_iff.mp found).1

/-- A new socket comes from the call that gave its number. -/
theorem origin?_after {h : Host} (opens : call.opens = true) (fine : h.failureOf call = none) :
    origin? (h.after call).records h.socketCount = some call := by
  have last : sockets (h.after call).records = sockets h.records ++ [call] := by
    simp [sockets, opens, fine]
  rw [origin?, last, ← length_sockets, List.getElem?_concat_length]

/-- Calls that do not bind a socket leave its binding alone. -/
theorem bound?_append (h : ∀ r ∈ made, r.call.binds? socket = none) :
    bound? (made ++ log) socket = bound? log socket := by
  have none : made.findSome? (fun r => if r.failure.isNone then r.call.binds? socket else none) =
      none := List.findSome?_eq_none_iff.mpr fun r hr => by simp [h r hr]
  rw [bound?, lastOf, List.findSome?_append, none]
  rfl

end SocketLog

/-! ## Departures -/

/-- A packet that was handed over to leave through a socket. -/
structure Departure where
  socket : Nat
  addr : Address
  data : Bytes
  /-- That it could not be handed over. -/
  failure : Option IoFailure
  /-- The calls before. -/
  earlier : SocketLog

namespace Departure

/-- The hop limit with which the packet leaves: the ninth byte of its header, if it brings one
along, else the limit that was set last on the socket. -/
def hops? (d : Departure) : Option Nat :=
  if d.earlier.origin? d.socket = some .ownHeader then d.data[8]?.map (·.toNat)
  else d.earlier.limit? d.addr.family d.socket

theorem hops?_of_header {d : Departure}
    (own : d.earlier.origin? d.socket = some .ownHeader) : d.hops? = d.data[8]?.map (·.toNat) :=
  if_pos own

theorem hops?_of_limit {d : Departure} (other : d.earlier.origin? d.socket ≠ some .ownHeader) :
    d.hops? = d.earlier.limit? d.addr.family d.socket := if_neg other

/-- What the socket is bound to. -/
def bound? (d : Departure) : Option (Address × Nat) := d.earlier.bound? d.socket

end Departure

namespace SocketLog

/-- The packets handed over, latest first. -/
def departures : SocketLog → List Departure
  | [] => []
  | r :: earlier =>
    match r.call with
    | .sendTo id addr _ data => ⟨id, addr, data, r.failure, earlier⟩ :: departures earlier
    | _ => departures earlier

theorem departures_append {made : SocketLog} (h : ∀ r ∈ made, r.call.op ≠ .sendTo)
    (log : SocketLog) : departures (made ++ log) = departures log := by
  induction made with
  | nil => rfl
  | cons r made ih =>
    obtain ⟨first, rest⟩ := List.forall_mem_cons.mp h
    rw [List.cons_append, departures, ih rest]
    split
    · rename_i call
      exact absurd (congrArg SocketCall.op call) first
    · rfl

end SocketLog

end FlowTrace
