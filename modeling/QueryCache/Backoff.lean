import QueryCache.Failure
/-!
# Pauses between attempts

A failed request is repeated after a pause that grows with each attempt, up to a longest
pause and a largest number of repetitions.  Durations are nanoseconds.

The pause is `base * multiplier ^ attempt`, cut to the longest pause.  The factor is held to
thirty-two bits and the product to the longest representable duration; both bounds lie
above every pause that is in use, so the cut hides them.
-/

namespace QueryCache

structure Backoff where
  /-- How often a request is repeated at most. -/
  retries : Nat
  base : Nat
  multiplier : Nat
  longest : Nat
deriving DecidableEq, Repr

/-- Nanoseconds in a millisecond. -/
def nanosPerMilli : Nat := 1000000

namespace Backoff

/-- Three repetitions, after one, two and four seconds. -/
def standard : Backoff where
  retries := 3
  base := 1000 * nanosPerMilli
  multiplier := 2
  longest := 30000 * nanosPerMilli

/-- No repetition. -/
def never : Backoff := { standard with retries := 0 }

/-- The largest factor. -/
def factorMax : Nat := 0xFFFFFFFF

/-- The longest representable duration. -/
def durationMax : Nat := 0xFFFFFFFFFFFFFFFF * 1000000000 + 999999999

/-- The power `multiplier ^ attempt`, held to thirty-two bits.  From two on, thirty-two factors are
enough to reach the bound. -/
def factor (b : Backoff) (attempt : Nat) : Nat :=
  min (b.multiplier.pow (min attempt 32)) factorMax

/-- The pause after the attempt of that number, counted from zero. -/
def pause (b : Backoff) (attempt : Nat) : Nat :=
  min (min (b.base * b.factor attempt) durationMax) b.longest

/-- Whether the failure of the attempt of that number is followed by another attempt. -/
def retriesAfter (b : Backoff) (attempt : Nat) (f : Failure) : Bool :=
  attempt < b.retries && f.isRetryable

/-- The pause before the next attempt, if there is to be one. -/
def next? (b : Backoff) (attempt : Nat) (f : Failure) : Option Nat :=
  if b.retriesAfter attempt f then some (b.pause attempt) else none

/-- The factor is the power itself, held to the bound. -/
theorem factor_eq (b : Backoff) (attempt : Nat) :
    b.factor attempt = min (b.multiplier.pow attempt) factorMax := by
  rcases Nat.le_total attempt 32 with h | h
  · rw [factor, Nat.min_eq_left h]
  rw [factor, Nat.min_eq_right h]
  match b.multiplier with
  | 0 => simp [Nat.zero_pow (show 0 < attempt by omega)]
  | 1 => simp
  | m + 2 =>
    have base : factorMax ≤ (m + 2).pow 32 :=
      Nat.le_trans (by decide) (Nat.pow_le_pow_left (show 2 ≤ m + 2 by omega) 32)
    have more : (m + 2).pow 32 ≤ (m + 2).pow attempt := Nat.pow_le_pow_right (by omega) h
    rw [Nat.min_eq_right base, Nat.min_eq_right (Nat.le_trans base more)]

/-- No pause is longer than the longest. -/
theorem pause_le (b : Backoff) (attempt : Nat) : b.pause attempt ≤ b.longest :=
  Nat.min_le_right ..

end Backoff

end QueryCache
