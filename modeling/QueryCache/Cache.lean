import QueryCache.Entry
/-!
# The cache

A table of entries with the subscribers of each.  The cache fetches nothing: it keeps count
of who watches what, hands out subscriber numbers that are never used twice, and drops
entries that nobody has watched for the grace period.

An entry is made by the first call that needs it and counts as unused from then on, so it is
dropped in time if no subscriber ever comes.
-/

namespace QueryCache

/-- What a subscriber shows to leave again. -/
structure Ticket where
  id : Nat
  key : Key
deriving DecidableEq, Repr

structure Cache where
  entries : KeyMap Entry
  nextSubscriber : Nat
  /-- How old data may be, and how long an entry without subscribers is kept. -/
  keep : Nat

namespace Cache

def empty (keep : Nat) : Cache := ⟨∅, 1, keep⟩

def read (c : Cache) (k : Key) : Option Entry := c.entries[k]?

def contains (c : Cache) (k : Key) : Bool := c.entries.contains k

def keys (c : Cache) : List Key := c.entries.keys

def size (c : Cache) : Nat := c.entries.size

/-- The entry of a call, made now if there is none. -/
def entryFor (c : Cache) (k : Key) (endpoint : String) (args : Json) (now : Nat) : Entry :=
  (c.read k).getD { Entry.fresh k endpoint args with unusedSince := some now }

def put (c : Cache) (k : Key) (e : Entry) : Cache := { c with entries := c.entries.insert k e }

/-- Makes sure a call has an entry. -/
def ensure (c : Cache) (k : Key) (endpoint : String) (args : Json) (now : Nat) : Cache :=
  c.put k (c.entryFor k endpoint args now)

/-- Adds a subscriber to a call. -/
def subscribe (c : Cache) (k : Key) (endpoint : String) (args : Json) (now : Nat) :
    Ticket × Cache :=
  let id := c.nextSubscriber
  let entry := (c.entryFor k endpoint args now).watchedBy id
  (⟨id, k⟩, { c.put k entry with nextSubscriber := id + 1 })

/-- Takes a subscriber off.  Answers how many are left, and nothing if the ticket is not that
of a present subscriber. -/
def unsubscribe (c : Cache) (t : Ticket) (now : Nat) : Option Nat × Cache :=
  match c.read t.key with
  | some e =>
    if t.id ∈ e.subscribers then
      let e := e.leftBy t.id now
      (some e.subscribers.size, c.put t.key e)
    else (none, c)
  | none => (none, c)

/-- Changes an entry, if there is one, and answers who watches it. -/
def write (c : Cache) (k : Key) (change : Entry → Entry) : Option (List Nat) × Cache :=
  match c.read k with
  | some e => (some (change e).subscribers.toList, c.put k (change e))
  | none => (none, c)

/-- A call without an entry counts as stale. -/
def isStale (c : Cache) (k : Key) (now : Nat) : Bool :=
  match c.read k with
  | some e => e.isStale now c.keep
  | none => true

def subscribersOf (c : Cache) (k : Key) : List Nat :=
  ((c.read k).map fun e => e.subscribers.toList).getD []

def isEvictable (c : Cache) (k : Key) (now : Nat) : Bool :=
  ((c.read k).map fun e => e.isEvictable now c.keep).getD false

def remove (c : Cache) (k : Key) : Cache := { c with entries := c.entries.erase k }

/-- Drops an entry if it has been unused for the whole grace period. -/
def evict (c : Cache) (k : Key) (now : Nat) : Bool × Cache :=
  if c.isEvictable k now then (true, c.remove k) else (false, c)

/-- Drops every entry that has been unused for the whole grace period. -/
def collect (c : Cache) (now : Nat) : List Key × Cache :=
  let expired := c.keys.filter fun k => c.isEvictable k now
  (expired, expired.foldl remove c)

/-- The entries that the next subscriber would fetch again. -/
def staleKeys (c : Cache) (now : Nat) : List Key := c.keys.filter fun k => c.isStale k now

/-- Drops everything.  Subscriber numbers go on from where they were. -/
def clear (c : Cache) : Cache := { c with entries := ∅ }

end Cache

end QueryCache
