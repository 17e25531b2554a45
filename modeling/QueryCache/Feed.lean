/-!
# Feeds

A feed carries messages to any number of readers, each of which reads at its own pace.  A
reader is a place in the feed: how many messages have passed it.  The feed holds the latest
messages only; a reader that falls behind further than that is told how many it lost and
goes on with the oldest message still held.

The number of messages held is a power of two, the least that holds what was asked for.
-/

namespace QueryCache

structure Feed (α : Type) where
  /-- How many messages are held. -/
  capacity : Nat
  /-- All messages, the latest first. -/
  sent : List α

namespace Feed

variable {α : Type}

/-- A feed that holds at least so many messages, and at least one. -/
def ofCapacity (capacity : Nat) : Feed α := ⟨capacity.nextPowerOfTwo, []⟩

def send (f : Feed α) (message : α) : Feed α := { f with sent := message :: f.sent }

/-- The place of a reader that has seen everything so far. -/
def position (f : Feed α) : Nat := f.sent.length

/-- What a reader finds: how many messages it lost, and the rest in the order sent. -/
structure Reading (α : Type) where
  lost : Nat
  messages : List α

/-- What has passed since a place. -/
def since (f : Feed α) (place : Nat) : Reading α :=
  let waiting := f.position - place
  ⟨waiting - f.capacity, (f.sent.take (min waiting f.capacity)).reverse⟩

end Feed

end QueryCache
