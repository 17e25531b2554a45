import QueryCache.Failure
import QueryCache.Key
import QueryCache.Tag.Basic
import QueryCache.Version
/-!
# Cache entries

An entry is what the cache knows about one call: which stage its fetching is in, the data of
the last success, the failure of the last refusal, who watches it.  Times are milliseconds on
the session's clock.

Data outlives what happens to an entry: it stays visible while a new fetch runs, after that
fetch fails, and after it was declared stale.  `isStale` asks whether the next subscriber has
to fetch again; `isEvictable` whether the entry has been without subscribers for long enough
to be dropped.

Declaring an entry stale also counts up its epoch.  A fetch remembers the epoch it started
in, and only a fetch of the current epoch makes the entry fresh again.
-/

namespace QueryCache

/-- How far the fetching of an entry has come. -/
inductive Stage where
  /-- Nobody has asked for it yet. -/
  | unfetched
  /-- A fetch is running. -/
  | fetching
  /-- The last fetch succeeded. -/
  | loaded
  /-- The last fetch failed. -/
  | failed
deriving DecidableEq, Repr

structure Entry where
  key : Key
  endpoint : String
  args : Json
  stage : Stage
  data : Option Version
  failure : Option Failure
  /-- When the data was fetched. -/
  fetchedAt : Option Nat
  /-- Declared stale since the last fetch that counted. -/
  invalidated : Bool
  /-- How often it was declared stale. -/
  epoch : Nat
  tags : TagSet
  subscribers : Std.ExtTreeSet Nat
  /-- Since when nobody watches it. -/
  unusedSince : Option Nat

namespace Entry

/-- An entry nobody has asked for. -/
def fresh (key : Key) (endpoint : String) (args : Json) : Entry where
  key := key
  endpoint := endpoint
  args := args
  stage := .unfetched
  data := none
  failure := none
  fetchedAt := none
  invalidated := false
  epoch := 0
  tags := ∅
  subscribers := ∅
  unusedSince := none

def isWatched (e : Entry) : Bool := !e.subscribers.isEmpty

def isFetching (e : Entry) : Bool := e.stage == .fetching

/-- The first fetch is running. -/
def isLoading (e : Entry) : Bool := e.isFetching && e.data.isNone

/-- Whether the entry has to be fetched again: never fetched, declared stale, or older than
the age allowed. -/
def isStale (e : Entry) (now maxAge : Nat) : Bool :=
  e.invalidated || match e.fetchedAt with
    | some since => maxAge < now - since
    | none => true

/-- Whether nobody has watched the entry for the whole grace period. -/
def isEvictable (e : Entry) (now grace : Nat) : Bool :=
  !e.isWatched && match e.unusedSince with
    | some since => grace ≤ now - since
    | none => false

def watchedBy (e : Entry) (subscriber : Nat) : Entry :=
  { e with subscribers := e.subscribers.insert subscriber, unusedSince := none }

/-- Takes a subscriber off; the last one to go starts the grace period. -/
def leftBy (e : Entry) (subscriber now : Nat) : Entry :=
  let rest := e.subscribers.erase subscriber
  { e with
    subscribers := rest
    unusedSince := if rest.isEmpty then some now else e.unusedSince }

/-- A fetch has started. -/
def beginFetch (e : Entry) : Entry := { e with stage := .fetching }

/-- A fetch has succeeded.  It makes the entry fresh only if it started in the current
epoch. -/
def load (e : Entry) (data : Version) (tags : TagSet) (now epoch : Nat) : Entry :=
  { e with
    stage := .loaded
    data := some data
    failure := none
    fetchedAt := some now
    tags := tags
    invalidated := e.invalidated && e.epoch != epoch }

/-- A fetch has failed; the data, if any, stays. -/
def fail (e : Entry) (f : Failure) : Entry := { e with stage := .failed, failure := some f }

/-- Shows other data in place of what was fetched. -/
def display (e : Entry) (data : Version) : Entry := { e with data := some data }

/-- Declares the entry stale. -/
def invalidate (e : Entry) : Entry := { e with invalidated := true, epoch := e.epoch + 1 }

end Entry

end QueryCache
