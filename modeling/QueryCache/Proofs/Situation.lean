import QueryCache.Session.Watching
import QueryCache.Session.Writing
/-!
# Everything that can happen to a session

A timeline lets a session's business run at times of its own.  Here the times are free, and so
is the order: a `Situation` is a session with the fetches that have landed and are yet to be
followed up and the writes that are yet to be answered, and an `Event` is anything that can
come next.  Each event happens as a whole, as each operation of a session does.

A `History` is a list of events with the moments at which they came, the latest first.  Nothing
is asked of the moments, not even that they grow, and an event that has no object (an answer to
a flight that is not in the air, say) changes nothing.  So what holds after every history holds
however the work in the background is interleaved with the calls from outside.  What can come of an
event is listed once (`Occurs`), and all that is kept by every event is proved along that list.

* `lastHit` — when the entry of a key was last declared stale, told by the number that the next
  flight was to have then.
* `lastStored` — the flight that brought the last answer stored in the entry.

Flights are numbered in the order they depart, so a flight departed after that declaration
exactly if its number is no smaller than the mark.  Both belong to the entry that is there: with
the entry they are gone.
-/

namespace QueryCache

/-- Whether a fetch is of this key, and no reset has come since it departed. -/
def Session.counts (s : Session) (k : Key) (f : Fetch) : Bool :=
  f.key = k ∧ f.generation = s.generation

/-- A write whose request has been sent, with what its confirmation takes. -/
structure Undertaking where
  write : Write
  mutation : Mutation
  args : Json

structure Situation where
  session : Session
  /-- The fetches that have landed and have not been followed up, by their flights. -/
  landed : Std.ExtTreeMap Nat Fetch
  /-- The writes that wait for an answer, by their numbers. -/
  writes : Std.ExtTreeMap Nat Undertaking

inductive Event where
  | subscribe (name : String) (args : Json)
  | unsubscribe (ticket : Ticket)
  | query (name : String) (args : Json)
  /-- A viewer has the entry fetched again, however fresh it is. -/
  | refetch (k : Key)
  | tick (k : Key) (serial : Nat)
  | evict (k : Key)
  | collect
  | reset
  | invalidate (tags : List Tag)
  | write (mutation : Mutation) (args : Json) (edits : List SpeculativeEdit)
  /-- The server has confirmed a write. -/
  | confirm (write : Nat) (response : Json)
  /-- The server has refused a write, was not reached, or did not answer in time. -/
  | giveUp (write : Nat) (failure : Failure)
  /-- Whoever began a write does not wait for it any more. -/
  | cancel (write : Nat)
  | land (flight : Nat) (brought : Except Failure Json)
  | followUp (flight : Nat)
  /-- An id is handed out for a record that the server has not numbered yet. -/
  | standIn

namespace Situation

def start (setup : Setup) : Situation := ⟨.start setup, ∅, ∅⟩

/-- Puts the session into its next state, and takes what that asks for. -/
def become (p : Situation) (s : Session) : Situation := { p with session := s.takeErrands.2 }

/-- The write with that number is waiting no longer. -/
def settled (p : Situation) (write : Nat) : Situation := { p with writes := p.writes.erase write }

def step (p : Situation) (now : Nat) : Event → Situation
  | .subscribe name args => match p.session.lookup name with
    | .ok endpoint => p.become (p.session.subscribe now endpoint args).2
    | .error _ => p
  | .unsubscribe ticket => p.become (p.session.unsubscribe now ticket)
  | .query name args => match p.session.lookup name with
    | .ok endpoint => p.become (p.session.query now endpoint args).2
    | .error _ => p
  | .refetch k => p.become (p.session.refetch k)
  | .tick k serial =>
    if p.session.polls.isCurrent k serial then match p.session.tick k with
      | (true, s) => p.become s
      | (false, s) => p.become { s with polls := s.polls.finish k serial }
    else p
  | .evict k => p.become (p.session.evict now k)
  | .collect => p.become (p.session.collect now).2
  | .reset => p.become p.session.reset
  | .invalidate tags => p.become (p.session.invalidate tags).2
  | .write mutation args edits =>
    let (write, s) := p.session.beginWrite edits
    { p.become s with writes := p.writes.insert write.id ⟨write, mutation, args⟩ }
  | .confirm write response => match p.writes[write]? with
    | some u => (p.become (p.session.confirm u.write u.mutation u.args response)).settled write
    | none => p
  | .giveUp write failure => match p.writes[write]? with
    | some u => (p.become (p.session.giveUp u.write failure)).settled write
    | none => p
  | .cancel write => match p.writes[write]? with
    | some u => (p.become (p.session.withdraw u.write)).settled write
    | none => p
  | .land flight brought => match p.session.fetches[flight]? with
    | some f =>
      { p.become (p.session.land now flight f brought).2 with
        landed := p.landed.insert flight f }
    | none => p
  | .followUp flight => match p.landed[flight]? with
    | some f =>
      { p.become (p.session.followUp f) with landed := p.landed.erase flight }
    | none => p
  | .standIn => p.become p.session.standIn.2

end Situation

/-- What has happened, with the moments at which it did, the latest first. -/
abbrev History := List (Nat × Event)

namespace Situation

/-- The situation after a history. -/
def after (setup : Setup) : History → Situation
  | [] => start setup
  | (now, e) :: h => (after setup h).step now e

/-- The keys that an event answers to have declared stale. -/
def declares (p : Situation) : Event → KeySet
  | .invalidate tags => (p.session.invalidate tags).1
  | .confirm write response => match p.writes[write]? with
    | some u =>
      let tags := u.mutation.stales u.args response
      if tags.isEmpty then ∅ else ((p.session.settleWrite u.write response).invalidate tags).1
    | none => ∅
  | _ => ∅

/-- The flight whose answer an event stores under a key, if it does. -/
def stores (p : Situation) (k : Key) : Event → Option Nat
  | .land flight (.ok _) => match p.session.fetches[flight]? with
    | some f => if p.session.counts k f then some flight else none
    | none => none
  | _ => none

/-- The mark of the last event that declared the present entry stale. -/
def lastHit (setup : Setup) (k : Key) : History → Option Nat
  | [] => none
  | (now, e) :: h =>
    if ((after setup h).step now e).session.cache.contains k then
      if k ∈ (after setup h).declares e then some (after setup h).session.flights.nextFlight
      else lastHit setup k h
    else none

/-- The flight that brought the last answer stored in the present entry. -/
def lastStored (setup : Setup) (k : Key) : History → Option Nat
  | [] => none
  | (now, e) :: h =>
    if ((after setup h).step now e).session.cache.contains k then
      match (after setup h).stores k e with
      | some flight => some flight
      | none => lastStored setup k h
    else none

/-! ## What comes of an event -/

/-- What can come of an event.  Either it has no object, or it is one operation of the session, whose
errands are taken, with an entry in the books. -/
inductive Occurs (p : Situation) (now : Nat) : Event → Situation → Prop
  | nothing {e : Event} (hdeclares : p.declares e = ∅) (hstores : ∀ k, p.stores k e = none) :
      Occurs p now e p
  | subscribe {name : String} {endpoint : Endpoint} (hlookup : p.session.lookup name = .ok endpoint)
      (args : Json) :
      Occurs p now (.subscribe name args) (p.become (p.session.subscribe now endpoint args).2)
  | unsubscribe (ticket : Ticket) :
      Occurs p now (.unsubscribe ticket) (p.become (p.session.unsubscribe now ticket))
  | query {name : String} {endpoint : Endpoint} (hlookup : p.session.lookup name = .ok endpoint)
      (args : Json) :
      Occurs p now (.query name args) (p.become (p.session.query now endpoint args).2)
  | refetch (k : Key) : Occurs p now (.refetch k) (p.become (p.session.refetch k))
  | ticks {k : Key} {serial : Nat} (hcurrent : p.session.polls.isCurrent k serial = true)
      (hwatched : p.session.isWatched k = true) :
      Occurs p now (.tick k serial) (p.become (p.session.refetch k))
  /-- A poll ticks that nobody watches. -/
  | ends {k : Key} {serial : Nat} (hcurrent : p.session.polls.isCurrent k serial = true)
      (hunwatched : p.session.isWatched k = false) :
      Occurs p now (.tick k serial)
        (p.become { p.session with polls := p.session.polls.finish k serial })
  | evict (k : Key) : Occurs p now (.evict k) (p.become (p.session.evict now k))
  | collect : Occurs p now .collect (p.become (p.session.collect now).2)
  | reset : Occurs p now .reset (p.become p.session.reset)
  | invalidate (tags : List Tag) :
      Occurs p now (.invalidate tags) (p.become (p.session.invalidate tags).2)
  | write (mutation : Mutation) (args : Json) (edits : List SpeculativeEdit) :
      Occurs p now (.write mutation args edits)
        { p.become (p.session.beginWrite edits).2 with
          writes := p.writes.insert p.session.nextWrite
            ⟨(p.session.beginWrite edits).1, mutation, args⟩ }
  | confirm {write : Nat} {u : Undertaking} (hwrite : p.writes[write]? = some u)
      (response : Json) :
      Occurs p now (.confirm write response)
        ((p.become (p.session.confirm u.write u.mutation u.args response)).settled write)
  | giveUp {write : Nat} {u : Undertaking} (hwrite : p.writes[write]? = some u)
      (failure : Failure) :
      Occurs p now (.giveUp write failure)
        ((p.become (p.session.giveUp u.write failure)).settled write)
  | cancel {write : Nat} {u : Undertaking} (hwrite : p.writes[write]? = some u) :
      Occurs p now (.cancel write) ((p.become (p.session.withdraw u.write)).settled write)
  | land {flight : Nat} {f : Fetch} (hair : p.session.fetches[flight]? = some f)
      (brought : Except Failure Json) :
      Occurs p now (.land flight brought)
        { p.become (p.session.land now flight f brought).2 with
          landed := p.landed.insert flight f }
  | followUp {flight : Nat} {f : Fetch} (hlanded : p.landed[flight]? = some f) :
      Occurs p now (.followUp flight)
        { p.become (p.session.followUp f) with landed := p.landed.erase flight }
  | standIn : Occurs p now .standIn (p.become p.session.standIn.2)

/-- **What an event can do.**  This is the one place where `step` is taken apart. -/
theorem occurs_step (p : Situation) (now : Nat) (e : Event) : p.Occurs now e (p.step now e) := by
  cases e with
  | subscribe name args =>
      simp only [step]
      cases hlookup : p.session.lookup name with
      | error failure => exact .nothing rfl fun _ => rfl
      | ok endpoint => exact .subscribe hlookup args
  | unsubscribe ticket => exact .unsubscribe ticket
  | query name args =>
      simp only [step]
      cases hlookup : p.session.lookup name with
      | error failure => exact .nothing rfl fun _ => rfl
      | ok endpoint => exact .query hlookup args
  | refetch k => exact .refetch k
  | tick k serial =>
      simp only [step, Session.tick]
      cases hcurrent : p.session.polls.isCurrent k serial with
      | false => exact .nothing rfl fun _ => rfl
      | true =>
          cases hwatched : p.session.isWatched k with
          | true => exact .ticks hcurrent hwatched
          | false => exact .ends hcurrent hwatched
  | evict k => exact .evict k
  | collect => exact .collect
  | reset => exact .reset
  | invalidate tags => exact .invalidate tags
  | write mutation args edits => exact .write mutation args edits
  | confirm write response =>
      simp only [step]
      cases hwrite : p.writes[write]? with
      | none => exact .nothing (by simp only [declares, hwrite]) fun _ => rfl
      | some u => exact .confirm hwrite response
  | giveUp write failure =>
      simp only [step]
      cases hwrite : p.writes[write]? with
      | none => exact .nothing rfl fun _ => rfl
      | some u => exact .giveUp hwrite failure
  | cancel write =>
      simp only [step]
      cases hwrite : p.writes[write]? with
      | none => exact .nothing rfl fun _ => rfl
      | some u => exact .cancel hwrite
  | land flight brought =>
      simp only [step]
      cases hair : p.session.fetches[flight]? with
      | none => exact .nothing rfl fun _ => by cases brought <;> simp only [stores, hair]
      | some f => exact .land hair brought
  | followUp flight =>
      simp only [step]
      cases hlanded : p.landed[flight]? with
      | none => exact .nothing rfl fun _ => rfl
      | some f => exact .followUp hlanded
  | standIn => exact .standIn

end Situation

end QueryCache
