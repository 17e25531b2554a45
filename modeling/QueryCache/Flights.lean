import QueryCache.Key
/-!
# One flight for many

Whoever asks for a call while a fetch of it is under way joins that fetch.  The window in
which one can join lasts from the start of a flight until it has landed, and there is at most
one per key.

A flight has a number of its own.  After everything was forgotten, old flights are still in
the air and may land when a new flight of the same key has a window already, so a landing
closes only the window of its own number.
-/

namespace QueryCache

structure Flights where
  windows : KeyMap Nat
  nextFlight : Nat

namespace Flights

def empty : Flights := ⟨∅, 0⟩

/-- The flight that can be joined under a key. -/
def window? (f : Flights) (k : Key) : Option Nat := f.windows[k]?

def isOpen (f : Flights) (k : Key) : Bool := f.windows.contains k

def size (f : Flights) : Nat := f.windows.size

/-- The number of a flight that nobody can join. -/
def depart (f : Flights) : Nat × Flights :=
  (f.nextFlight, { f with nextFlight := f.nextFlight + 1 })

/-- Starts a flight that can be joined under a key until it lands. -/
def board (f : Flights) (k : Key) : Nat × Flights :=
  (f.nextFlight,
    { windows := f.windows.insert k f.nextFlight, nextFlight := f.nextFlight + 1 })

/-- A flight has landed: its window, if it still has one, is closed. -/
def land (f : Flights) (k : Key) (flight : Nat) : Flights :=
  if f.window? k = some flight then { f with windows := f.windows.erase k } else f

/-- Closes every window.  Flights in the air go on. -/
def forgetAll (f : Flights) : Flights := { f with windows := ∅ }

end Flights

end QueryCache
