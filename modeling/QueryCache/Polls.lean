import QueryCache.Key
/-!
# Polls

While somebody watches an entry of a polled class, the entry is fetched again at intervals.
The register holds one poll per key: its interval and a serial number by which a tick knows
whether the poll it belongs to still stands.

A poll may come to an end by itself; it then stays on the register until it is struck off or
replaced, but it does not tick any more.

`nextDue` spaces the ticks.  They fall at whole multiples of the interval after the start;
after a tick that came late, the next one is a whole interval later, so that ticks are delayed
and never bunched.
-/

namespace QueryCache

structure Poll where
  interval : Nat
  serial : Nat
  ended : Bool
deriving DecidableEq, Repr

structure Polls where
  polls : KeyMap Poll
  nextSerial : Nat

namespace Polls

def empty : Polls := ⟨∅, 0⟩

def get? (p : Polls) (k : Key) : Option Poll := p.polls[k]?

/-- Whether a key is being polled. -/
def isActive (p : Polls) (k : Key) : Bool :=
  match p.get? k with
  | some poll => !poll.ended
  | none => false

/-- Whether the poll of that number stands and has not ended. -/
def isCurrent (p : Polls) (k : Key) (serial : Nat) : Bool :=
  match p.get? k with
  | some poll => poll.serial == serial && !poll.ended
  | none => false

/-- Starts to poll a key, in place of a poll with another interval or one that has ended.
Answers the number of the new poll, and nothing if the poll there goes on. -/
def register (p : Polls) (k : Key) (interval : Nat) : Option Nat × Polls :=
  match p.get? k with
  | some poll =>
    if poll.interval = interval ∧ !poll.ended then (none, p)
    else (some p.nextSerial, ⟨p.polls.insert k ⟨interval, p.nextSerial, false⟩, p.nextSerial + 1⟩)
  | none =>
    (some p.nextSerial, ⟨p.polls.insert k ⟨interval, p.nextSerial, false⟩, p.nextSerial + 1⟩)

/-- Strikes a key off, and answers whether it was on the register. -/
def unregister (p : Polls) (k : Key) : Bool × Polls :=
  (p.polls.contains k, { p with polls := p.polls.erase k })

/-- Notes that a poll has come to an end. -/
def finish (p : Polls) (k : Key) (serial : Nat) : Polls :=
  match p.get? k with
  | some poll =>
    if poll.serial = serial then { p with polls := p.polls.insert k { poll with ended := true } }
    else p
  | none => p

def clear (p : Polls) : Polls := { p with polls := ∅ }

/-- How late a tick may come and still count as on time, in milliseconds. -/
def tolerance : Nat := 5

/-- When the tick after one that was due then and comes now is due. -/
def nextDue (interval due now : Nat) : Nat :=
  if due + tolerance < now then now + interval else due + interval

end Polls

end QueryCache
