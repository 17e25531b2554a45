import QueryCache.Polls
import QueryCache.Timeline.Agenda
/-!
# A ticker

The register of polls on a clock, with a duty to be done at each tick.  A duty has a name, may
keep its poll busy for a while, and may end it after a number of ticks.  While it is busy the
poll does not tick; a tick missed meanwhile comes as soon as it is done.
-/

namespace QueryCache

/-- What is done at each tick of a poll. -/
structure Duty where
  name : String
  /-- How long a tick takes. -/
  busy : Nat
  /-- After how many ticks it is over, if ever. -/
  lasts : Option Nat
deriving DecidableEq, Repr

/-- A poll as it runs. -/
structure PollRun where
  key : Key
  serial : Nat
  interval : Nat
  duty : Duty
  /-- How often it has ticked. -/
  ticks : Nat

inductive TickerJob where
  | setOut (run : PollRun)
  | tick (run : PollRun) (due : Nat)
  /-- The duty of a tick is done; the next one is due then. -/
  | done (run : PollRun) (next : Nat)

structure TickerState where
  polls : Polls
  /-- When whose tick came, the latest first. -/
  log : List (Nat × String)

abbrev Ticker := Timed TickerState TickerJob

namespace Ticker

def start : Ticker := ⟨.start, ⟨.empty, []⟩⟩

def withPolls (t : Ticker) (polls : Polls) : Ticker :=
  { t with state := { t.state with polls := polls } }

/-- Polls a key with a duty, unless it is polled at this interval already. -/
def register (t : Ticker) (k : Key) (interval : Nat) (duty : Duty) : Ticker :=
  match t.state.polls.register k interval with
  | (none, polls) => withPolls t polls
  | (some serial, polls) =>
    withPolls { t with agenda := t.agenda.push (.setOut ⟨k, serial, interval, duty, 0⟩) } polls

def unregister (t : Ticker) (k : Key) : Bool × Ticker :=
  let (known, polls) := t.state.polls.unregister k
  (known, withPolls t polls)

def clear (t : Ticker) : Ticker := withPolls t t.state.polls.clear

def schedule (t : Ticker) (due : Nat) (job : TickerJob) : Ticker :=
  { t with agenda := t.agenda.schedule due job }

/-- Whether a poll goes on after so many ticks. -/
def goesOn (d : Duty) (ticks : Nat) : Bool :=
  match d.lasts with
  | some n => ticks < n
  | none => true

def work (job : TickerJob) (t : Ticker) : Ticker :=
  match job with
  | .setOut run =>
    let due := t.now + run.interval
    schedule t due (.tick run due)
  | .tick run due =>
    if t.state.polls.isCurrent run.key run.serial then
      let t := { t with state := { t.state with log := (t.now, run.duty.name) :: t.state.log } }
      let next := Polls.nextDue run.interval due t.now
      let done := TickerJob.done { run with ticks := run.ticks + 1 } next
      { t with agenda := t.agenda.after run.duty.busy done }
    else t
  | .done run next =>
    if t.state.polls.isCurrent run.key run.serial then
      if goesOn run.duty run.ticks then schedule t next (.tick run next)
      else withPolls t (t.state.polls.finish run.key run.serial)
    else t

def pass (t : Ticker) (duration : Nat) : Ticker := Timed.pass work duration t

/-- The keys that are being polled, in order. -/
def active (t : Ticker) : List Key :=
  t.state.polls.polls.keys.filter t.state.polls.isActive

end Ticker

end QueryCache
