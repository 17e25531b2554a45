import QueryCache.Flights
import QueryCache.Timeline.Agenda
import QueryCache.Timeline.Reply
import QueryCache.Version
/-!
# A pool of fetches

Fetches on a clock, shared by key and by nothing else.  Whoever asks while a fetch of the key
is under way is given what that fetch brings; all who share one are given the same version or
the same failure.  A fetch that is not to be shared runs beside the others.
-/

namespace QueryCache

inductive PoolJob where
  /-- A fetch sets out. -/
  | depart (flight : Nat) (k : Option Key) (reply : Reply)
  | land (flight : Nat) (k : Option Key) (brought : Except Failure Json)

/-- What one caller was given. -/
structure Delivery where
  time : Nat
  name : String
  given : Except Failure Version

structure PoolState where
  flights : Flights
  /-- Who waits for which flight. -/
  waiting : List (Nat × String)
  /-- How many fetches have begun. -/
  begun : Nat
  nextStamp : Nat
  /-- The latest first. -/
  deliveries : List Delivery

abbrev Pool := Timed PoolState PoolJob

namespace Pool

def start : Pool := ⟨.start, ⟨.empty, [], 0, 0, []⟩⟩

def enter (p : Pool) (flight : Nat) (name : String) : Pool :=
  { p with state := { p.state with waiting := p.state.waiting ++ [(flight, name)] } }

/-- Begins a fetch for a caller. -/
def begin (p : Pool) (flight : Nat) (flights : Flights) (k : Option Key) (name : String)
    (reply : Reply) : Pool :=
  enter
    { agenda := p.agenda.push (.depart flight k reply)
      state := { p.state with flights := flights, begun := p.state.begun + 1 } } flight name

/-- Asks for a key.  Answers whether this began a fetch. -/
def fetch (p : Pool) (k : Key) (name : String) (reply : Reply) : Bool × Pool :=
  match p.state.flights.window? k with
  | some flight => (false, p.enter flight name)
  | none =>
    let (flight, flights) := p.state.flights.board k
    (true, begin p flight flights (some k) name reply)

/-- Begins a fetch that nobody joins. -/
def fetchAlone (p : Pool) (name : String) (reply : Reply) : Pool :=
  let (flight, flights) := p.state.flights.depart
  begin p flight flights none name reply

def isOpen (p : Pool) (k : Key) : Bool := p.state.flights.isOpen k

/-- Forgets what is under way.  Those who wait are served all the same. -/
def clear (p : Pool) : Pool :=
  { p with state := { p.state with flights := p.state.flights.forgetAll } }

/-- Serves all who wait for a flight. -/
def land (p : Pool) (flight : Nat) (k : Option Key) (brought : Except Failure Json) : Pool :=
  let s := p.state
  let given := brought.map fun value => (⟨s.nextStamp, value⟩ : Version)
  let (served, rest) := s.waiting.partition fun w => w.1 == flight
  { p with
    state :=
      { s with
        flights := match k with
          | some k => s.flights.land k flight
          | none => s.flights
        waiting := rest
        nextStamp := s.nextStamp + 1
        deliveries := (served.map fun w => ⟨p.now, w.2, given⟩).reverse ++ s.deliveries } }

def work (job : PoolJob) (p : Pool) : Pool :=
  match job with
  | .depart flight k reply =>
    { p with agenda := p.agenda.after reply.delay (.land flight k reply.brought) }
  | .land flight k brought => p.land flight k brought

def pass (p : Pool) (duration : Nat) : Pool := Timed.pass work duration p

end Pool

end QueryCache
