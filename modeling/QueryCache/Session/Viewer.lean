import QueryCache.Session.Watching
/-!
# Viewers

A viewer is what a screen holds: it watches one call and keeps the display of it.  The feed of
updates tells it when to look again, so between two looks the display is that of the last
look.

A viewer that fell behind further than the feed reaches cannot know whether it missed an
update of its own, and looks again in any case.
-/

namespace QueryCache

/-- What a screen shows of an entry. -/
inductive Display where
  /-- Nothing there and nothing under way. -/
  | idle
  /-- The first fetch is under way. -/
  | loading
  | success (data : Version)
  /-- The last fetch failed, but earlier data is there. -/
  | fallback (data : Version) (failure : Failure)
  /-- The fetch failed and there is nothing to show. -/
  | error (failure : Failure)
deriving DecidableEq, Repr

namespace Display

def ofEntry : Entry → Display := fun e =>
  match e.stage, e.data, e.failure with
  | .failed, some data, some failure => fallback data failure
  | .failed, none, some failure => error failure
  | _, some data, _ => success data
  | .fetching, none, _ => loading
  | _, none, _ => idle

/-- What is shown of a call that may have no entry. -/
def ofLookup : Option Entry → Display
  | some e => ofEntry e
  | none => idle

def isLoading : Display → Bool
  | loading => true
  | _ => false

def isSuccess : Display → Bool
  | success _ => true
  | _ => false

def isError : Display → Bool
  | error _ | fallback _ _ => true
  | _ => false

/-- The data on show, old data included. -/
def data? : Display → Option Version
  | success data | fallback data _ => some data
  | _ => none

def failure? : Display → Option Failure
  | error failure | fallback _ failure => some failure
  | _ => none

end Display

structure Viewer where
  ticket : Ticket
  display : Display
  /-- How far it has read the feed of updates. -/
  place : Nat
deriving DecidableEq, Repr

namespace Viewer

/-- Looks at the entry. -/
def look (v : Viewer) (s : Session) : Viewer :=
  { v with display := .ofLookup (s.read v.ticket.key) }

/-- Begins to watch a call.  The place is taken first, so that nothing is missed. -/
def openIn (s : Session) (now : Nat) (endpoint : Endpoint) (args : Json) : Viewer × Session :=
  let place := s.updates.position
  let (subscription, s) := s.subscribe now endpoint args
  (look ⟨subscription.ticket, .idle, place⟩ s, s)

/-- Reads all updates and looks again if one was its own.  Answers whether it did. -/
def poll (v : Viewer) (s : Session) : Bool × Viewer :=
  let reading := s.updates.since v.place
  let dirty := reading.lost > 0 || reading.messages.any fun u => u.key == v.ticket.key
  let v := { v with place := s.updates.position }
  (dirty, if dirty then v.look s else v)

/-- Reads on up to the first update of its own and looks again then.  Answers whether there
was one. -/
def next (v : Viewer) (s : Session) : Bool × Viewer :=
  let reading := s.updates.since v.place
  if reading.lost > 0 then (true, { v with place := v.place + reading.lost }.look s)
  else match reading.messages.findIdx? fun u => u.key == v.ticket.key with
    | some i => (true, { v with place := v.place + i + 1 }.look s)
    | none => (false, { v with place := s.updates.position })

/-- Fetches again, however fresh the data is. -/
def refetch (v : Viewer) (s : Session) : Viewer × Session :=
  let s := s.refetch v.ticket.key
  (v.look s, s)

end Viewer

end QueryCache
