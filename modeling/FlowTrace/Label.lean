import FlowTrace.Address

/-!
# Labels of addresses

A label is what is known about an address besides the trace: its host name and the autonomous system
that announces it. `LabelCache` keeps a label for each address that has been looked up;
`LabelCache.missing` lists the others.
-/

namespace FlowTrace

/-- The autonomous system that announces an address. -/
structure OriginAs where
  number : UInt32
  name : String
  /-- The announced network. -/
  network : Option String
  deriving DecidableEq, Repr

/-- How far an address has been looked up. -/
inductive Label where
  | pending
  | resolved (hostname : Option String) (origin : Option OriginAs)
  /-- Every question failed. -/
  | unresolved
  deriving DecidableEq, Repr

namespace Label

def hostname : Label → Option String
  | .resolved hostname _ => hostname
  | _ => none

def origin : Label → Option OriginAs
  | .resolved _ origin => origin
  | _ => none

end Label

/-- Labels by address. -/
structure LabelCache where
  entries : List (Address × Label)
  deriving Repr

namespace LabelCache

def empty : LabelCache := ⟨[]⟩

/-- There is an entry for an address. -/
def contains (c : LabelCache) (a : Address) : Bool := c.entries.any (·.1 == a)

/-- The label of an address; without an entry it is pending. -/
def get (c : LabelCache) (a : Address) : Label := (c.entries.lookup a).getD .pending

/-- The entries with the label of one address replaced, or added at the end. -/
def put (a : Address) (label : Label) : List (Address × Label) → List (Address × Label)
  | [] => [(a, label)]
  | (b, old) :: rest => if b = a then (a, label) :: rest else (b, old) :: put a label rest

def insert (c : LabelCache) (a : Address) (label : Label) : LabelCache := ⟨put a label c.entries⟩

def ofList (entries : List (Address × Label)) : LabelCache :=
  entries.foldl (fun c (a, label) => c.insert a label) empty

/-- The number of entries. -/
def size (c : LabelCache) : Nat := c.entries.length

/-- The addresses without an entry, each once, in order. -/
def missing (c : LabelCache) (addrs : List Address) : List Address :=
  ((addrs.filter (!c.contains ·)).eraseDups).mergeSort Address.le

/-! ## Lookups beside a trace -/

/-- The most addresses that are looked up in one go. -/
def batchSize : Nat := 10

/-- The addresses that the next go looks up. -/
def batch (c : LabelCache) (addrs : List Address) : List Address := (c.missing addrs).take batchSize

/-- The cache with some answers taken in. -/
def store (c : LabelCache) (answers : List (Address × Label)) : LabelCache :=
  answers.foldl (fun c (a, label) => c.insert a label) c

/-- An address is looked up. A lookup may have effects. -/
def answer [Monad m] (resolve : Address → m Label) (a : Address) : m (Address × Label) := do
  return (a, ← resolve a)

/-- One go: the first missing addresses of a trace are looked up, then the answers are stored. -/
def tickWith [Monad m] (resolve : Address → m Label) (c : LabelCache) (addrs : List Address) :
    m LabelCache := do
  return c.store (← (c.batch addrs).mapM (answer resolve))

/-- One go without effects. -/
def tick (resolve : Address → Label) (c : LabelCache) (addrs : List Address) : LabelCache :=
  (c.tickWith (fun a => pure (resolve a)) addrs : Id LabelCache)

/-- One go for each time that the addresses of a trace are shown. -/
def work [Monad m] (resolve : Address → m Label) (c : LabelCache) (shown : List (List Address)) :
    m LabelCache :=
  shown.foldlM (tickWith resolve) c

/-! ## Waiting for labels -/

/-- The looks that are taken at a cache before the wait is given up. -/
def looks : Nat := 20

/-- The milliseconds between two looks. -/
def lookGap : Nat := 100

/-- The milliseconds until a look finds nothing missing, given the cache at each moment. -/
def waitFrom (cacheAt : Nat → LabelCache) (addrs : List Address) : (looks now : Nat) → Nat
  | 0, now => now
  | looks + 1, now =>
    if ((cacheAt now).missing addrs).isEmpty then now
    else waitFrom cacheAt addrs looks (now + lookGap)

/-- The milliseconds that a report waits for labels. -/
def wait (cacheAt : Nat → LabelCache) (addrs : List Address) : Nat := waitFrom cacheAt addrs looks 0

end LabelCache

end FlowTrace
