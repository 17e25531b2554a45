import QueryCache.Backoff
import QueryCache.Request
import QueryCache.Timeline.Timer
import Std.Data.ExtTreeMap
/-!
# Replies

A reply is what a request brings and how long it takes.  An answer that takes longer than the
request waits is as good as none: the request has failed when its time was up (`within`); one
that arrives at that very moment still counts.

Whether a request is repeated after an attempt, and after what pause, is said once
(`Backoff.pauseAfter?`).  `course` is the whole course of a request that is repeated after failures,
for a server whose answers to the first, second, … attempt are given.

A `Script` is a server that answers by heart.
-/

namespace QueryCache

structure Reply where
  brought : Except Failure Json
  /-- How long after the request it comes, in milliseconds. -/
  delay : Nat

/-- What becomes of a reply to a request that waits so long.  The reply itself waits for a timer,
so it comes after thirty years at the latest. -/
def Reply.within (r : Reply) (timeout : Nat) : Reply :=
  let delay := Timer.span r.delay
  if delay ≤ timeout then ⟨r.brought, delay⟩ else ⟨.error (.timedOut timeout), timeout⟩

/-- How many milliseconds a pause lasts, which is what clocks tell apart. -/
def Backoff.pauseMillis (nanos : Nat) : Nat :=
  Timer.span ((nanos + (nanosPerMilli - 1)) / nanosPerMilli)

/-- How many milliseconds a request pauses before its next attempt, if there is to be one after what
the attempt of that number has brought. -/
def Backoff.pauseAfter? (b : Backoff) (attempt : Nat) : Except Failure Json → Option Nat
  | .ok _ => none
  | .error f => (b.next? attempt f).map pauseMillis

/-- How a request went. -/
structure Course where
  /-- When each attempt was sent. -/
  sent : List Nat
  brought : Except Failure Json
  ended : Nat

/-- The rest of the course from an attempt on, with so many repetitions left. -/
def courseFrom (b : Backoff) (timeout : Nat) (answer : Nat → Reply) :
    (left attempt now : Nat) → Course
  | 0, attempt, now =>
    let reply := (answer attempt).within timeout
    ⟨[now], reply.brought, now + reply.delay⟩
  | left + 1, attempt, now =>
    let reply := (answer attempt).within timeout
    let heard := now + reply.delay
    match b.pauseAfter? attempt reply.brought with
    | none => ⟨[now], reply.brought, heard⟩
    | some pause =>
      let rest := courseFrom b timeout answer left (attempt + 1) (heard + pause)
      { rest with sent := now :: rest.sent }

/-- The course of a request sent at time zero. -/
def course (b : Backoff) (timeout : Nat) (answer : Nat → Reply) : Course :=
  courseFrom b timeout answer b.retries 0 0

/-- What a server that has nothing to say answers. -/
def Reply.notFound : Reply := ⟨.error (.refused 404 none), 0⟩

/-- The reply of a list that serves for the attempt of that number: the last one serves for
all further attempts. -/
def Reply.atAttempt (replies : List Reply) (attempt : Nat) : Reply :=
  (replies[min attempt (replies.length - 1)]?).getD .notFound

/-- A server that has a list of replies for each route.  Each serves once, the last one for
ever. -/
structure Script where
  routes : Std.ExtTreeMap String (List Reply)

namespace Script

def empty : Script := ⟨∅⟩

/-- Gives a route other replies. -/
def set (s : Script) (route : String) (replies : List Reply) : Script :=
  ⟨s.routes.insert route replies⟩

def answer (r : Request) (s : Script) : Reply × Script :=
  match s.routes.getD r.route [] with
  | [] => (.notFound, s)
  | [last] => (last, s)
  | reply :: rest => (reply, s.set r.route rest)

end Script

end QueryCache
