import QueryCache.Backoff
import QueryCache.Cache
import QueryCache.Endpoint
import QueryCache.Flights
import QueryCache.Notice
import QueryCache.Overlay.Basic
import QueryCache.Polls
import QueryCache.Tag.Cascade
import QueryCache.Tag.Tagging
/-!
# Sessions

A session is everything a client of the server holds: the cache, what provides which tag, the
edits that wait for confirmation, the fetches in the air, the polls, and the feeds that tell
the screens what has changed.  What a session does is a function from one state to the next;
whatever depends on the time takes it as an argument.

Work that goes on in the background is not done here but asked for: an action leaves errands
behind, and whoever drives the session takes them.  A session without a background asks for
nothing, so its fetches are entered and never carried out.

A reset starts a new generation.  Fetches of an older generation are still carried out, and
what they bring is dropped.
-/

namespace QueryCache

structure Options where
  /-- How old data may be, and how long an entry without subscribers is kept. -/
  keep : Nat
  /-- How long an answer is waited for. -/
  timeout : Nat
  backoff : Backoff
  /-- The intervals at which classes are polled; none or zero for not at all. -/
  intervals : List (String × Nat)
  /-- The field that edits tell records apart by. -/
  idField : String
  /-- How many notices are held for a slow reader. -/
  noticeCapacity : Nat
deriving Repr

namespace Options

def standard : Options where
  keep := 300000
  timeout := 15000
  backoff := .standard
  intervals := []
  idField := "id"
  noticeCapacity := 64

/-- The interval a class is polled at, if it is. -/
def interval? (o : Options) (pollClass : String) : Option Nat :=
  (o.intervals.lookup pollClass).filter (0 < ·)

end Options

/-- What stays the same throughout a session. -/
structure Setup where
  endpoints : Std.ExtTreeMap String Endpoint
  cascade : Cascade
  options : Options
  /-- Whether there is somebody to do the work in the background. -/
  background : Bool

/-- Puts endpoints under their names; of two with one name the later counts. -/
def Setup.catalog (endpoints : List Endpoint) : Std.ExtTreeMap String Endpoint :=
  endpoints.foldl (fun table e => table.insert e.name e) ∅

/-- Why a call has no data. -/
inductive CallFailure where
  | unknownEndpoint (name : String)
  | failed (failure : Failure)
deriving DecidableEq, Repr

def CallFailure.message : CallFailure → String
  | unknownEndpoint name => "unknown endpoint: " ++ name
  | failed failure => failure.message

/-- A fetch in the air: whose it is, and the epoch and generation it started in. -/
structure Fetch where
  key : Key
  endpoint : Endpoint
  args : Json
  epoch : Nat
  generation : Nat

/-- Work to be done in the background. -/
inductive Errand where
  /-- Carry out a fetch, and see afterwards whether another is due. -/
  | carry (flight : Nat)
  /-- Tick at an interval. -/
  | poll (k : Key) (serial interval : Nat)
  /-- Try to drop an entry after the grace period. -/
  | grace (k : Key)
deriving DecidableEq, Repr

/-- Tells that an entry was written, and who watched it then. -/
structure Update where
  key : Key
  subscribers : List Nat
deriving DecidableEq, Repr

/-- How many updates are held for a slow reader. -/
def updateCapacity : Nat := 256

structure Session where
  setup : Setup
  cache : Cache
  tagging : Tagging
  overlays : Overlays
  flights : Flights
  /-- The fetches in the air by the number of their flight. -/
  fetches : Std.ExtTreeMap Nat Fetch
  polls : Polls
  updates : Feed Update
  notices : Feed Notice
  generation : Nat
  nextWrite : Nat
  nextStandIn : Nat
  /-- What has been asked for and not been taken yet, the oldest first. -/
  errands : List Errand

namespace Session

def start (setup : Setup) : Session where
  setup := setup
  cache := .empty setup.options.keep
  tagging := .empty
  overlays := .empty setup.options.idField
  flights := .empty
  fetches := ∅
  polls := .empty
  updates := .ofCapacity updateCapacity
  notices := .ofCapacity setup.options.noticeCapacity
  generation := 0
  nextWrite := 1
  nextStandIn := 1
  errands := []

def endpoint? (s : Session) (name : String) : Option Endpoint := s.setup.endpoints[name]?

/-- The endpoint of a call. -/
def lookup (s : Session) (name : String) : Except CallFailure Endpoint :=
  match s.endpoint? name with
  | some endpoint => .ok endpoint
  | none => .error (.unknownEndpoint name)

def read (s : Session) (k : Key) : Option Entry := s.cache.read k

/-- The data shown at a key. -/
def dataAt (s : Session) (k : Key) : Option Version := s.read k >>= Entry.data

def isFetching (s : Session) (k : Key) : Bool := s.flights.isOpen k

def isWatched (s : Session) (k : Key) : Bool := ((s.read k).map Entry.isWatched).getD false

def staleKeys (s : Session) (now : Nat) : List Key := s.cache.staleKeys now

/-- An id for a record that the server has not numbered yet. -/
def standIn (s : Session) : String × Session :=
  (s!"temp-{s.nextStandIn}", { s with nextStandIn := s.nextStandIn + 1 })

/-- Asks for work in the background, if there is one. -/
def ask (s : Session) (e : Errand) : Session :=
  if s.setup.background then { s with errands := s.errands ++ [e] } else s

/-- Takes what has been asked for. -/
def takeErrands (s : Session) : List Errand × Session := (s.errands, { s with errands := [] })

/-- Tells that an entry was written. -/
def publish (s : Session) (k : Key) : Session :=
  { s with updates := s.updates.send ⟨k, s.cache.subscribersOf k⟩ }

/-- Changes an entry without telling. -/
def alter (s : Session) (k : Key) (change : Entry → Entry) : Session :=
  { s with cache := (s.cache.write k change).2 }

/-- Changes an entry, if there is one, and tells. -/
def change (s : Session) (k : Key) (change : Entry → Entry) : Session :=
  if s.cache.contains k then (s.alter k change).publish k else s

/-- Drops everything.  Fetches in the air go on, but count no longer. -/
def reset (s : Session) : Session :=
  { s with
    generation := s.generation + 1
    polls := s.polls.clear
    flights := s.flights.forgetAll
    cache := s.cache.clear
    tagging := .empty
    overlays := s.overlays.clear }

end Session

end QueryCache
