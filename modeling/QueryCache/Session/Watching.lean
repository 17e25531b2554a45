import QueryCache.Session.Fetching
/-!
# Watching

Whoever watches an entry is shown what there is at once, even if it is stale.  An entry that
has to be fetched is fetched in the background, and the first to watch an entry of a polled
class starts its poll.  The last to leave stops the poll and starts the grace period, at whose
end the entry is dropped if nobody has come back.
-/

namespace QueryCache

structure Subscription where
  ticket : Ticket
  /-- What was shown when the subscription began. -/
  data : Option Version
deriving DecidableEq, Repr

namespace Session

/-- Polls a key from now on. -/
def startPolling (s : Session) (k : Key) (interval : Nat) : Session :=
  if s.setup.background then match s.polls.register k interval with
    | (some serial, polls) => { s with polls := polls }.ask (.poll k serial interval)
    | (none, polls) => { s with polls := polls }
  else s

/-- Whether a new subscriber makes an entry be fetched.  One that is being fetched already is
waited for, unless its calls are not shared. -/
def needsFetch (s : Session) (now : Nat) (endpoint : Endpoint) (e : Entry) : Bool :=
  !endpoint.shared || (e.isStale now s.setup.options.keep && !e.isFetching)

/-- The interval at which an endpoint's entries are polled, if they are. -/
def pollInterval? (s : Session) (endpoint : Endpoint) : Option Nat :=
  endpoint.pollClass >>= s.setup.options.interval?

/-- Begins to watch a call. -/
def subscribe (s : Session) (now : Nat) (endpoint : Endpoint) (args : Json) :
    Subscription × Session :=
  let k := endpoint.keyOf args
  let (ticket, cache) := s.cache.subscribe k endpoint.name args now
  let s := { s with cache := cache }
  match s.read k with
  | none => (⟨ticket, none⟩, s)
  | some e =>
    let s := if s.needsFetch now endpoint e then s.refetch k else s
    let s := match s.pollInterval? endpoint with
      | some interval => if e.subscribers.size = 1 then s.startPolling k interval else s
      | none => s
    (⟨ticket, e.data⟩, s)

/-- Ceases to watch. -/
def unsubscribe (s : Session) (now : Nat) (t : Ticket) : Session :=
  let (left, cache) := s.cache.unsubscribe t now
  let s := { s with cache := cache }
  if left = some 0 then { s with polls := (s.polls.unregister t.key).2 }.ask (.grace t.key) else s

/-- A poll ticks: the entry is fetched again if anybody watches it.  Answers whether the poll
goes on. -/
def tick (s : Session) (k : Key) : Bool × Session :=
  if s.isWatched k then (true, s.refetch k) else (false, s)

/-- Forgets what is known besides the entry of a key that was dropped. -/
def forget (s : Session) (k : Key) : Session :=
  { s with tagging := s.tagging.remove k, overlays := s.overlays.forget k }

/-- Drops an entry if it has been unused for the whole grace period. -/
def evict (s : Session) (now : Nat) (k : Key) : Session :=
  match s.cache.evict k now with
  | (true, cache) => { s with cache := cache }.forget k
  | (false, _) => s

/-- Drops every entry that has been unused for the whole grace period. -/
def collect (s : Session) (now : Nat) : List Key × Session :=
  let (expired, cache) := s.cache.collect now
  let s := expired.foldl forget { s with cache := cache }
  (expired, { s with polls := expired.foldl (fun p k => (p.unregister k).2) s.polls })

end Session

end QueryCache
