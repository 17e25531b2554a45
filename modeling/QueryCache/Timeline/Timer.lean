/-!
# Timers

A timer counts milliseconds.  It runs for thirty years at most: one that is set for longer goes
off then, as if what it waits for had come about.
-/

namespace QueryCache.Timer

/-- The longest time that a timer runs: thirty years of 365 days. -/
def longest : Nat := 30 * 365 * 24 * 60 * 60 * 1000

/-- How long a timer runs that is set for so many milliseconds. -/
def span (millis : Nat) : Nat := min millis longest

theorem span_of_le {millis : Nat} (h : millis ≤ longest) : span millis = millis :=
  Nat.min_eq_left h

end QueryCache.Timer
