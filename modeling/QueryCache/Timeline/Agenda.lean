import QueryCache.Timeline.Timer
/-!
# Agendas

What is to be done and when.  Jobs that are ready are done in the order they came; alarms make
a job ready at a time set beforehand, and of two alarms for one time the one set first goes
off first.

The clock stands still while anything is ready.  `elapse` does what is ready, and when there
is nothing left moves the clock to the next alarm, until a given time is reached; whatever is
due at that time is still done.  A job may make more jobs ready and set more alarms, so the
number of steps has a bound, which is far above what any wait takes.
-/

namespace QueryCache

structure Alarm (α : Type) where
  due : Nat
  job : α

structure Agenda (α : Type) where
  now : Nat
  /-- The jobs that are ready, the next one first. -/
  ready : List α
  /-- The alarms, the next one first. -/
  alarms : List (Alarm α)

namespace Agenda

variable {α : Type}

def start : Agenda α := ⟨0, [], []⟩

/-- Makes a job ready behind all others. -/
def push (a : Agenda α) (job : α) : Agenda α := { a with ready := a.ready ++ [job] }

/-- Makes a job the very next one. -/
def pushFront (a : Agenda α) (job : α) : Agenda α := { a with ready := job :: a.ready }

/-- Puts an alarm behind all that go off no later. -/
def insertAlarm (alarm : Alarm α) : List (Alarm α) → List (Alarm α)
  | [] => [alarm]
  | first :: rest =>
    if first.due ≤ alarm.due then first :: insertAlarm alarm rest else alarm :: first :: rest

/-- Makes a job ready at a time.  One that is due by now comes next. -/
def schedule (a : Agenda α) (due : Nat) (job : α) : Agenda α :=
  if due ≤ a.now then a.pushFront job
  else { a with alarms := insertAlarm ⟨due, job⟩ a.alarms }

/-- Makes a job ready when a timer goes off that is set for so many milliseconds. -/
def after (a : Agenda α) (delay : Nat) (job : α) : Agenda α :=
  a.schedule (a.now + Timer.span delay) job

/-- The next job that is ready. -/
def pop? (a : Agenda α) : Option (α × Agenda α) :=
  match a.ready with
  | [] => none
  | job :: rest => some (job, { a with ready := rest })

/-- When the next alarm goes off. -/
def nextDue? (a : Agenda α) : Option Nat := a.alarms.head?.map Alarm.due

/-- Moves the clock to the next alarm that goes off by a time, and makes ready what is due
then. -/
def wake? (a : Agenda α) (limit : Nat) : Option (Agenda α) :=
  match a.alarms with
  | [] => none
  | first :: _ =>
    if first.due ≤ limit then
      let now := max a.now first.due
      let due := a.alarms.takeWhile fun alarm => alarm.due ≤ now
      some ⟨now, a.ready ++ due.map Alarm.job, a.alarms.drop due.length⟩
    else none

end Agenda

/-- A state with the agenda of what will happen to it. -/
structure Timed (σ α : Type) where
  agenda : Agenda α
  state : σ

namespace Timed

variable {σ α : Type}

def now (t : Timed σ α) : Nat := t.agenda.now

/-- Does all that is ready or due by a time, in at most so many steps. -/
def elapse (work : α → Timed σ α → Timed σ α) (limit : Nat) : Nat → Timed σ α → Timed σ α
  | 0, t => t
  | steps + 1, t =>
    match t.agenda.pop? with
    | some (job, agenda) => elapse work limit steps (work job { t with agenda := agenda })
    | none => match t.agenda.wake? limit with
      | some agenda => elapse work limit steps { t with agenda := agenda }
      | none => { t with agenda := { t.agenda with now := max t.agenda.now limit } }

/-- The bound on the steps of one wait. -/
def stepLimit : Nat := 1000000000000

/-- Lets a timer run that is set for so many milliseconds. -/
def pass (work : α → Timed σ α → Timed σ α) (duration : Nat) (t : Timed σ α) : Timed σ α :=
  elapse work (t.now + Timer.span duration) stepLimit t

/-- Does all that can be done without letting time pass. -/
def settle (work : α → Timed σ α → Timed σ α) (t : Timed σ α) : Timed σ α := t.pass work 0

end Timed

end QueryCache
