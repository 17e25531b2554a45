import QueryCache.Timeline.Basic
/-!
# Running a timeline

`work` does one job.  The jobs of a fetch are its attempts and their answers, up to the
landing; those of a write its sending and the answer; a poll and a grace period each set an
alarm.  Besides there is what happens from outside: starting and cancelling tasks, and waiting
for a task to finish or for a viewer's entry to change.
-/

namespace QueryCache.Timeline

variable {σ : Type}

/-- Sends the request of a fetch. -/
def attempt (t : Timeline σ) (flight number : Nat) : Timeline σ :=
  match t.session.fetches[flight]? with
  | none => t
  | some f =>
    let (reply, t) := t.send (f.endpoint.request f.args)
    t.after reply.delay (.answered flight number reply.brought)

/-- Ends a fetch: all who waited for it have finished, and its errand follows up. -/
def land (t : Timeline σ) (flight : Nat) (f : Fetch) (brought : Except Failure Json) :
    Timeline σ :=
  let (outcome, session) := t.session.land t.now flight f brought
  let t := t.become session
  let told := match outcome with
    | .ok v => Outcome.data v
    | .error failure => Outcome.refused (.failed failure)
  let (waiters, rest) := t.state.waiting.partition fun w => w.flight == flight
  let t := waiters.foldl (fun t w => t.finish w.name told) t
  let t := t.alter fun scene => { scene with waiting := rest }
  match t.state.progress[flight]? with
  | some (.airborne true) => (t.become (t.session.followUp f)).clearProgress flight
  | _ => t.setProgress flight (.landed f)

/-- Takes the answer to an attempt of a fetch. -/
def answered (t : Timeline σ) (flight number : Nat) (brought : Except Failure Json) :
    Timeline σ :=
  match t.session.fetches[flight]? with
  | none => t
  | some f => match t.session.setup.options.backoff.pauseAfter? number brought with
    | some pause => t.after pause (.attempt flight (number + 1))
    | none => t.land flight f brought

/-- Starts a fetch, unless it is under way. -/
def takeOff (t : Timeline σ) (flight : Nat) (attended : Bool) : Timeline σ :=
  if t.state.progress.contains flight then t
  else (t.setProgress flight (.airborne attended)).attempt flight 0

/-- The errand of a fetch. -/
def carry (t : Timeline σ) (flight : Nat) : Timeline σ :=
  match t.state.progress[flight]? with
  | none => t.takeOff flight true
  | some (.airborne _) => t.setProgress flight (.airborne true)
  | some (.landed f) => (t.become (t.session.followUp f)).clearProgress flight

/-- A query asks for its call. -/
def query (t : Timeline σ) (task : Nat) (name endpoint : String) (args : Json) : Timeline σ :=
  match t.session.lookup endpoint with
  | .error why => t.finish name (.refused why)
  | .ok endpoint =>
    match t.session.query t.now endpoint args with
    | (.ready data, session) => (t.become session).finish name (.data data)
    | (.flying flight, session) =>
      let t := t.become session
      let t := t.alter fun scene =>
        { scene with waiting := scene.waiting ++ [⟨task, name, flight⟩] }
      t.takeOff flight false

/-- A write shows its edits and sends its request. -/
def mutate (t : Timeline σ) (task : Nat) (name : String) (m : Mutation) (args : Json)
    (edits : List SpeculativeEdit) : Timeline σ :=
  let (write, session) := t.session.beginWrite edits
  let (reply, t) := (t.become session).send (m.request args)
  let t := t.alter fun scene =>
    { scene with writing := scene.writing.insert task ⟨name, write, m, args⟩ }
  t.after reply.delay (.written task reply.brought)

/-- Takes a write off the list of those under way. -/
def takeWriting (t : Timeline σ) (task : Nat) : Option Writing × Timeline σ :=
  (t.state.writing[task]?,
    t.alter fun scene => { scene with writing := scene.writing.erase task })

/-- Takes the answer to a write. -/
def written (t : Timeline σ) (task : Nat) (brought : Except Failure Json) : Timeline σ :=
  match t.takeWriting task with
  | (none, t) => t
  | (some w, t) => match brought with
    | .ok response =>
      (t.become (t.session.confirm w.write w.mutation w.args response)).finish w.name
        (.response response)
    | .error failure =>
      (t.become (t.session.giveUp w.write failure)).finish w.name (.refused (.failed failure))

def withdraw (t : Timeline σ) (task : Nat) : Timeline σ :=
  match t.takeWriting task with
  | (none, t) => t
  | (some w, t) => t.become (t.session.withdraw w.write)

/-- A poll that still stands ticks, and sets out for the next tick. -/
def tick (t : Timeline σ) (k : Key) (serial interval due : Nat) : Timeline σ :=
  if t.session.polls.isCurrent k serial then
    match t.session.tick k with
    | (true, session) =>
      let next := Polls.nextDue interval due t.now
      (t.become session).schedule next (.tick k serial interval next)
    | (false, session) =>
      t.become { session with polls := session.polls.finish k serial }
  else t

/-- The listener writes down what it finds. -/
def readUpdates (t : Timeline σ) : Timeline σ :=
  let reading := t.session.updates.since t.state.journalPlace
  let missed := if reading.lost > 0 then [News.missed reading.lost] else []
  let news := missed ++ reading.messages.map News.update
  let journal := news.foldl (fun lines n => ⟨t.now, n⟩ :: lines) t.state.journal
  let place := t.session.updates.position
  t.alter fun scene =>
    { scene with journal := journal, journalPlace := place, journalDue := false }

/-- Does one job. -/
def work (job : Job) (t : Timeline σ) : Timeline σ :=
  match job with
  | .journal => t.readUpdates
  | .query task name endpoint args => t.query task name endpoint args
  | .mutate task name m args edits => t.mutate task name m args edits
  | .withdraw task => t.withdraw task
  | .carry flight => t.carry flight
  | .attempt flight number => t.attempt flight number
  | .answered flight number brought => t.answered flight number brought
  | .written task brought => t.written task brought
  | .poll k serial interval =>
    let due := t.now + interval
    t.schedule due (.tick k serial interval due)
  | .tick k serial interval due => t.tick k serial interval due
  | .grace k => t.after t.session.setup.options.keep (.evict k)
  | .evict k => t.become (t.session.evict t.now k)

/-- Lets a timer run that is set for so many milliseconds. -/
def pass (t : Timeline σ) (duration : Nat) : Timeline σ := Timed.pass work duration t

/-- Does all that can be done without letting time pass. -/
def settle (t : Timeline σ) : Timeline σ := Timed.settle work t

/-- Starts a task under a name. -/
def spawn (t : Timeline σ) (name : String) (job : Nat → Job) : Timeline σ :=
  let task := t.state.nextTask
  { agenda := t.agenda.push (job task)
    state :=
      { t.state with nextTask := task + 1, tasks := t.state.tasks.insert name task } }

/-- Starts a query. -/
def startQuery (t : Timeline σ) (name endpoint : String) (args : Json) : Timeline σ :=
  t.spawn name fun task => .query task name endpoint args

/-- Starts a write. -/
def startWrite (t : Timeline σ) (name : String) (m : Mutation) (args : Json)
    (edits : List SpeculativeEdit) : Timeline σ :=
  t.spawn name fun task => .mutate task name m args edits

/-- Cancels a task.  Answers whether there was one of that name. -/
def cancel (t : Timeline σ) (name : String) : Bool × Timeline σ :=
  match t.state.tasks[name]? with
  | none => (false, t)
  | some task =>
    let waiting := t.state.waiting.filter fun w => w.task ≠ task
    (true,
      { agenda := t.agenda.push (.withdraw task)
        state := { t.state with waiting := waiting, tasks := t.state.tasks.erase name } })

/-- Waits until an update of a viewer's own has come, at most to a deadline.  What is due at
the deadline itself comes too late. -/
def awaitChange (deadline : Nat) : Nat → Viewer → Timeline σ → Bool × Viewer × Timeline σ
  | 0, v, t => (false, v, t)
  | steps + 1, v, t =>
    match v.next t.session with
    | (true, v) => (true, v, t)
    | (false, v) =>
      let late := (false, v, { t with agenda := { t.agenda with now := max t.now deadline } })
      match t.agenda.nextDue? with
      | some due =>
        if due < deadline then awaitChange deadline steps v (Timed.elapse work due Timed.stepLimit t)
        else late
      | none => late

/-- Waits until an update of a viewer's own has come, at most until a timer goes off. -/
def changeWithin (patience : Nat) (v : Viewer) (t : Timeline σ) : Bool × Viewer × Timeline σ :=
  awaitChange (t.now + Timer.span patience) Timed.stepLimit v t

/-- Goes on from alarm to alarm, at most so many of them, until a task has finished.  Answers
what it came to. -/
def awaitOutcome : Nat → Timeline σ → Option Outcome × Timeline σ
  | 0, t => (none, t)
  | alarms + 1, t =>
    let t := t.settle
    match t.state.finished, t.agenda.nextDue? with
    | f :: _, _ => (some f.outcome, t)
    | [], some due => awaitOutcome alarms (Timed.elapse work due Timed.stepLimit t)
    | [], none => (none, t)

end QueryCache.Timeline
