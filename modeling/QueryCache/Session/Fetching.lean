import QueryCache.Session.Basic
/-!
# Fetching

`launch` starts a fetch or joins the one in the air; `land` takes in what it brought.  In
between, the entry may have been declared stale, dropped or made anew, and the whole session
may have been reset.

* What a fetch of the current generation brings is stored under its key, if the entry is
  still there, with the pending edits replayed on top.
* The entry is fresh afterwards only if the fetch started in the entry's present epoch.
  `followUp` fetches once more for those who watch an entry that was declared stale meanwhile.
* A fetch of an older generation changes nothing but the register of fetches in the air.
-/

namespace QueryCache.Session

/-- Starts a flight: the entry is marked, and carrying it out is asked for. -/
def depart (s : Session) (k : Key) (endpoint : Endpoint) (args : Json) (epoch : Nat) :
    Nat × Session :=
  let (flight, flights) := if endpoint.shared then s.flights.board k else s.flights.depart
  let fetches := s.fetches.insert flight ⟨k, endpoint, args, epoch, s.generation⟩
  let s := { s with flights := flights, fetches := fetches }
  (flight, (s.change k Entry.beginFetch).ask (.carry flight))

/-- Joins the flight in the air, if it is one to be shared, or starts one. -/
def launch (s : Session) (k : Key) (endpoint : Endpoint) (args : Json) (epoch : Nat) :
    Nat × Session :=
  match if endpoint.shared then s.flights.window? k else none with
  | some flight => (flight, s)
  | none => s.depart k endpoint args epoch

/-- Fetches an entry again, by joining a flight if there is one. -/
def refetch (s : Session) (k : Key) : Session :=
  match s.read k with
  | some e => match s.endpoint? e.endpoint with
    | some endpoint => (s.launch k endpoint e.args e.epoch).2
    | none => s
  | none => s

/-- What a caller is told: data at once, or the number of the flight that brings it. -/
inductive Answer where
  | ready (data : Version)
  | flying (flight : Nat)
deriving DecidableEq, Repr

/-- Asks for the data of a call.  Fresh data is answered at once, anything else is fetched; an
endpoint whose calls are not shared is always fetched.  An entry made for the call is dropped
in time if nobody comes to watch it. -/
def query (s : Session) (now : Nat) (endpoint : Endpoint) (args : Json) : Answer × Session :=
  let k := endpoint.keyOf args
  let known := s.cache.contains k
  let e := s.cache.entryFor k endpoint.name args now
  let s := { s with cache := s.cache.put k e }
  let s := if known then s else s.ask (.grace k)
  let fresh := endpoint.shared && !e.isStale now s.setup.options.keep
  match if fresh then e.data else none with
  | some data => (.ready data, s)
  | none =>
    let (flight, s) := s.launch k endpoint args e.epoch
    (.flying flight, s)

/-- Takes in the data of a fetch.  Answers what is shown then. -/
def store (s : Session) (now : Nat) (f : Fetch) (value : Json) : Version × Session :=
  let (fetched, overlays) := s.overlays.mint value
  let s := { s with overlays := overlays }
  if s.generation ≠ f.generation then (fetched, s)
  else
    let tags := f.endpoint.tagsOf f.args value
    let (shown, overlays) := s.overlays.rebase f.key fetched
    let s := { s with overlays := overlays }
    let s :=
      if s.cache.contains f.key then { s with tagging := s.tagging.index f.key tags } else s
    (shown, s.change f.key fun e => e.load shown tags now f.epoch)

/-- Takes in the failure of a fetch, and announces it. -/
def storeFailure (s : Session) (f : Fetch) (failure : Failure) : Session :=
  if s.generation ≠ f.generation then s
  else
    let s := s.change f.key fun e => e.fail failure
    { s with notices := (s.notices.announce failure).2 }

/-- A flight has landed.  Answers what all who waited for it are given. -/
def land (s : Session) (now flight : Nat) (f : Fetch) (brought : Except Failure Json) :
    Except Failure Version × Session :=
  let closed (s : Session) : Session :=
    { s with flights := s.flights.land f.key flight, fetches := s.fetches.erase flight }
  match brought with
  | .ok value =>
    let (shown, s) := s.store now f value
    (.ok shown, closed s)
  | .error failure => (.error failure, closed (s.storeFailure f failure))

/-- Fetches once more if the entry was declared stale during a fetch and is watched. -/
def followUp (s : Session) (f : Fetch) : Session :=
  if s.generation ≠ f.generation then s
  else match s.read f.key with
    | some e =>
      if e.epoch ≠ f.epoch && e.isWatched && !e.isFetching then s.refetch f.key else s
    | none => s

end QueryCache.Session
