import QueryCache.Session.Viewer
import QueryCache.Session.Writing
import QueryCache.Timeline.Agenda
import QueryCache.Timeline.Reply
/-!
# Timelines

A session on a clock, with a server that answers its requests.  The session says what is to be
done; the timeline does it in its turn and in its time: it carries out fetches with their
repetitions, sends writes, ticks the polls and drops entries at the end of their grace.

Queries and writes run as tasks under a name.  A task that is cancelled waits no longer; a
write takes its edits back then.

A fetch is carried out by whoever comes to it first, the query that asked for it or the errand
that every fetch leaves.  That errand also sees to it that the entry is fetched once more if
it was declared stale meanwhile; it does so as soon as it has been under way itself and the
fetch has landed.

The journal keeps what the feed of updates told one patient listener, who reads when its turn
comes.
-/

namespace QueryCache

/-- What a task came to. -/
inductive Outcome where
  | data (v : Version)
  | response (v : Json)
  | refused (why : CallFailure)
deriving DecidableEq, Repr

/-- A task that has finished. -/
structure Finished where
  time : Nat
  name : String
  outcome : Outcome
deriving DecidableEq, Repr

/-- A request that was sent. -/
structure Call where
  time : Nat
  request : Request
deriving DecidableEq, Repr

/-- What the listener wrote down. -/
inductive News where
  | update (u : Update)
  /-- It missed so many updates. -/
  | missed (n : Nat)
deriving DecidableEq, Repr

structure JournalLine where
  time : Nat
  news : News
deriving DecidableEq, Repr

/-- How far a fetch has come. -/
inductive Progress where
  /-- It is under way; whether its errand has been started, too. -/
  | airborne (attended : Bool)
  /-- It has landed, and its errand has not been started. -/
  | landed (f : Fetch)

/-- A query that waits for a flight. -/
structure Waiting where
  task : Nat
  name : String
  flight : Nat
deriving DecidableEq, Repr

/-- A write whose request has been sent. -/
structure Writing where
  name : String
  write : Write
  mutation : Mutation
  args : Json

inductive Job where
  | journal
  | query (task : Nat) (name endpoint : String) (args : Json)
  | mutate (task : Nat) (name : String) (m : Mutation) (args : Json)
      (edits : List SpeculativeEdit)
  /-- A cancelled write takes its edits back. -/
  | withdraw (task : Nat)
  /-- The errand of a flight. -/
  | carry (flight : Nat)
  /-- A flight sends its request again. -/
  | attempt (flight attempt : Nat)
  | answered (flight attempt : Nat) (brought : Except Failure Json)
  | written (task : Nat) (brought : Except Failure Json)
  /-- A poll sets out. -/
  | poll (k : Key) (serial interval : Nat)
  | tick (k : Key) (serial interval due : Nat)
  /-- A grace period begins. -/
  | grace (k : Key)
  | evict (k : Key)

/-- What a timeline holds besides its agenda. -/
structure Scene (σ : Type) where
  /-- How the server answers. -/
  answer : Request → σ → Reply × σ
  server : σ
  session : Session
  progress : Std.ExtTreeMap Nat Progress
  waiting : List Waiting
  writing : Std.ExtTreeMap Nat Writing
  /-- The tasks that can be cancelled by name. -/
  tasks : Std.ExtTreeMap String Nat
  nextTask : Nat
  journalPlace : Nat
  /-- Whether the listener has been woken and has not had its turn. -/
  journalDue : Bool
  /-- The latest first, as the two that follow. -/
  calls : List Call
  finished : List Finished
  journal : List JournalLine

/-- A session on a clock. -/
abbrev Timeline (σ : Type) := Timed (Scene σ) Job

namespace Timeline

variable {σ : Type}

def start (setup : Setup) (answer : Request → σ → Reply × σ) (server : σ) : Timeline σ where
  agenda := .start
  state :=
    { answer := answer
      server := server
      session := .start setup
      progress := ∅
      waiting := []
      writing := ∅
      tasks := ∅
      nextTask := 0
      journalPlace := 0
      journalDue := false
      calls := []
      finished := []
      journal := [] }

def session (t : Timeline σ) : Session := t.state.session

/-- Changes what the timeline holds besides its agenda. -/
def alter (t : Timeline σ) (change : Scene σ → Scene σ) : Timeline σ :=
  { t with state := change t.state }

/-- The job that an errand is. -/
def jobOf : Errand → Job
  | .carry flight => .carry flight
  | .poll k serial interval => .poll k serial interval
  | .grace k => .grace k

/-- Wakes the listener if there is news, and takes the errands of the session. -/
def flush (t : Timeline σ) : Timeline σ :=
  let (errands, session) := t.session.takeErrands
  let news := !t.state.journalDue && t.state.journalPlace < session.updates.position
  let agenda := if news then t.agenda.push .journal else t.agenda
  let agenda := errands.foldl (fun a e => a.push (jobOf e)) agenda
  { agenda := agenda
    state := { t.state with session := session, journalDue := t.state.journalDue || news } }

/-- Puts the session into its next state, and takes what that asks for. -/
def become (t : Timeline σ) (s : Session) : Timeline σ :=
  (t.alter fun scene => { scene with session := s }).flush

def finish (t : Timeline σ) (name : String) (outcome : Outcome) : Timeline σ :=
  t.alter fun scene => { scene with finished := ⟨t.now, name, outcome⟩ :: scene.finished }

def setProgress (t : Timeline σ) (flight : Nat) (p : Progress) : Timeline σ :=
  t.alter fun scene => { scene with progress := scene.progress.insert flight p }

def clearProgress (t : Timeline σ) (flight : Nat) : Timeline σ :=
  t.alter fun scene => { scene with progress := scene.progress.erase flight }

/-- Sends a request.  Answers what becomes of it in the time that it waits. -/
def send (t : Timeline σ) (r : Request) : Reply × Timeline σ :=
  let (reply, server) := t.state.answer r t.state.server
  (reply.within t.session.setup.options.timeout,
    t.alter fun scene => { scene with server := server, calls := ⟨t.now, r⟩ :: scene.calls })

/-- Makes a job ready when a timer goes off. -/
def after (t : Timeline σ) (delay : Nat) (job : Job) : Timeline σ :=
  { t with agenda := t.agenda.after delay job }

/-- Makes a job ready at a time. -/
def schedule (t : Timeline σ) (due : Nat) (job : Job) : Timeline σ :=
  { t with agenda := t.agenda.schedule due job }

end Timeline

end QueryCache
