import QueryCache.Classroom.Summary
import QueryCache.Settings.Basic
import QueryCache.Timeline.Run
/-!
# Watching from the command line

`watch` opens a viewer for every call it is told to watch and logs what they show: new data
with its size, failures, and failures behind which older data still shows.  It passes on what
is announced, and counts the unread messages whenever the count changes.  A viewer that has
nothing to show yet logs nothing.

The log keeps every line once.  The user interrupts when it has grown to a given length.
-/

namespace QueryCache.CommandLine

/-- What is worth a line. -/
inductive LogLine where
  | watching (k : Key)
  /-- New data, with the length of its text in bytes. -/
  | updated (k : Key) (bytes : Nat)
  /-- A failure, and nothing to show. -/
  | failed (k : Key) (message : String)
  /-- A failure, and older data to show. -/
  | outdated (k : Key) (kind : FailureKind)
  | announced (n : Notice)
  /-- Announcements came too fast, and so many were lost. -/
  | unheard (lost : Nat)
  | unread (count : Nat)
  | interrupted
deriving DecidableEq, Repr

/-- The kinds of failures as the log names them. -/
def kindName : FailureKind → String
  | .network => "Network"
  | .auth => "Auth"
  | .validation => "Validation"
  | .server => "Server"
  | .notFound => "NotFound"

namespace LogLine

def text : LogLine → String
  | watching k => "INFO watching key=" ++ k.text
  | updated k bytes => s!"INFO updated key={k.text} bytes={bytes}"
  | failed k message => "WARN fetch failed key=" ++ k.text ++ " error=" ++ message
  | outdated k kind =>
    "WARN refresh failed, showing cached data key=" ++ k.text ++ " kind=" ++ kindName kind
  | announced (.success message) => "INFO notification level=Success " ++ message
  | announced (.failure _ message) => "INFO notification level=Error " ++ message
  | unheard lost => s!"WARN notifications dropped missed={lost}"
  | unread count => s!"INFO unread messages unread={count}"
  | interrupted => "INFO interrupted"

/-- The line for what a viewer shows. -/
def ofViewer? (v : Viewer) : Option LogLine :=
  match v.display with
  | .idle | .loading => none
  | .success data => some (updated v.ticket.key data.value.text.utf8ByteSize)
  | .fallback _ failure => some (outdated v.ticket.key failure.kind)
  | .error failure => some (failed v.ticket.key failure.message)

end LogLine

/-- A watch under way. -/
structure Watch (σ : Type) where
  line : Timeline σ
  viewers : List Viewer
  /-- How far the feeds have been read. -/
  noticePlace : Nat
  updatePlace : Nat
  /-- The number of unread messages last logged. -/
  unread : Option Nat
  /-- The latest line first, each line once. -/
  log : List LogLine

/-- What is watched if the settings name nothing. -/
def usualCalls : List Watched := [⟨"getDashboard", .null⟩, ⟨"getMessages", .null⟩]

def callsToWatch (s : Settings) : List Watched :=
  if s.watch.isEmpty then usualCalls else s.watch

namespace Watch

variable {σ : Type}

def start (line : Timeline σ) : Watch σ where
  line := line
  viewers := []
  noticePlace := line.session.notices.position
  updatePlace := line.session.updates.position
  unread := none
  log := []

/-- Logs a line that is not in the log yet. -/
def write (w : Watch σ) (l : LogLine) : Watch σ :=
  if l ∈ w.log then w else { w with log := l :: w.log }

/-- Opens viewers, until one of them names no endpoint. -/
def openViewers (w : Watch σ) : List Watched → Option CallFailure × Watch σ
  | [] => (none, w)
  | call :: rest => match w.line.session.lookup call.endpoint with
    | .error failure => (some failure, w)
    | .ok endpoint =>
      let (viewer, session) := Viewer.openIn w.line.session w.line.now endpoint call.args
      let w := { w with line := w.line.become session, viewers := w.viewers ++ [viewer] }
      (w.write (.watching viewer.ticket.key)).openViewers rest

/-- Logs what has been announced. -/
def passOn (w : Watch σ) : Watch σ :=
  let notices := w.line.session.notices
  let reading := notices.since w.noticePlace
  let w := { w with noticePlace := notices.position }
  let w := if reading.lost > 0 then w.write (.unheard reading.lost) else w
  reading.messages.foldl (fun w n => w.write (.announced n)) w

/-- Lets every viewer look, and logs what has changed. -/
def look (w : Watch σ) : Watch σ :=
  let polled := w.viewers.map fun v => v.poll w.line.session
  let changed := polled.filterMap fun (dirty, v) => if dirty then LogLine.ofViewer? v else none
  changed.foldl write { w with viewers := polled.map Prod.snd }

/-- The number of unread messages, if the messages are there. -/
def unreadNow (w : Watch σ) : Option Nat :=
  (w.line.session.dataAt (.ofCall "getMessages" .null)).map fun data =>
    Classroom.unreadMessageCount [data.value]

/-- Logs the number of unread messages if it is another one. -/
def countUnread (w : Watch σ) : Watch σ :=
  match w.unreadNow with
  | none => w
  | some count =>
    if w.unread = some count then w
    else { w with unread := some count }.write (.unread count)

/-- Logs all that has happened since the last time. -/
def report (w : Watch σ) : Watch σ :=
  let w := w.passOn
  let place := w.line.session.updates.position
  if w.updatePlace < place then { w with updatePlace := place }.look.countUnread else w

/-- Goes on from alarm to alarm, at most so many of them, until the log has so many lines. -/
def goOn (patience : Nat) : Nat → Watch σ → Watch σ
  | 0, w => w
  | alarms + 1, w =>
    let w := { w with line := w.line.settle }.report
    if patience ≤ w.log.length then w.write .interrupted
    else match w.line.agenda.nextDue? with
      | some due =>
        goOn patience alarms
          { w with line := Timed.elapse Timeline.work due Timed.stepLimit w.line }
      | none => w

end Watch

end QueryCache.CommandLine
