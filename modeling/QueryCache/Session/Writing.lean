import QueryCache.Session.Fetching
/-!
# Writing

A write may show its effect before the server has confirmed it: its edits are laid over the
data of the calls they aim at, where there is data.  Then the request is sent, once.

* On success the edits are settled by the server's answer, what the write made stale is
  declared stale, and the success is announced.
* On failure the edits are taken back and the failure is announced.
* A write that is given up takes its edits back and says nothing.

Declaring tags stale reaches, through the cascade, every entry that provides a tag covered.
Those that are watched are fetched again now, those being fetched once that fetch has landed,
and the rest when the next subscriber comes.
-/

namespace QueryCache

/-- A write under way. -/
structure Write where
  id : Nat
  /-- The calls that show its edits. -/
  targets : List Key
deriving DecidableEq, Repr

namespace Session

/-- Declares stale whatever provides one of these tags.  Answers the keys hit. -/
def invalidate (s : Session) (tags : List Tag) : KeySet × Session :=
  let hit := s.tagging.keysFor (s.setup.cascade.reach tags)
  let present := hit.toList.filter s.cache.contains
  let s := present.foldl (fun s k => s.alter k Entry.invalidate) s
  let idle := present.filter fun k =>
    ((s.read k).map fun e => e.isWatched && !e.isFetching).getD false
  let s := present.foldl publish s
  (hit, idle.foldl refetch s)

/-- Shows other data at a key, without telling. -/
def display (s : Session) (k : Key) (data : Version) : Session :=
  s.alter k fun e => e.display data

/-- Lays edits over the calls they aim at.  Answers where this was done, once for each edit. -/
def layEdits (s : Session) (write : Nat) : List SpeculativeEdit → List Key × Session
  | [] => ([], s)
  | e :: rest =>
    match s.dataAt e.target with
    | none => s.layEdits write rest
    | some shown =>
      let (next, overlays) := s.overlays.apply write e.target shown e.edit
      let s := { s with overlays := overlays }.display e.target next
      let (done, s) := s.layEdits write rest
      (e.target :: done, s)

/-- Begins a write with its edits. -/
def beginWrite (s : Session) (edits : List SpeculativeEdit) : Write × Session :=
  let id := s.nextWrite
  let (done, s) := { s with nextWrite := id + 1 }.layEdits id edits
  (⟨id, done.eraseDups⟩, done.foldl publish s)

/-- Settles edits at some keys.  Answers where other data is shown now. -/
def settleEdits (s : Session) (settle : Overlays → Key → Option Version × Overlays) :
    List Key → List Key × Session
  | [] => ([], s)
  | k :: rest =>
    let (shown, overlays) := settle s.overlays k
    let s := { s with overlays := overlays }
    match shown with
    | none => s.settleEdits settle rest
    | some data =>
      let (done, s) := (s.display k data).settleEdits settle rest
      (k :: done, s)

/-- Tells of the keys that still have an entry. -/
def publishPresent (s : Session) (keys : List Key) : Session :=
  (keys.filter s.cache.contains).foldl publish s

/-- Takes the edits of a write back. -/
def withdraw (s : Session) (w : Write) : Session :=
  let (done, s) := s.settleEdits (fun o k => o.rollback w.id k) w.targets
  s.publishPresent done

/-- Makes the edits of a write part of what is known. -/
def settleWrite (s : Session) (w : Write) (response : Json) : Session :=
  let (done, s) := s.settleEdits (fun o k => o.commit w.id k response) w.targets
  s.publishPresent done

def announce (s : Session) (n : Notice) : Session := { s with notices := s.notices.send n }

/-- The server has confirmed a write. -/
def confirm (s : Session) (w : Write) (m : Mutation) (args response : Json) : Session :=
  let s := s.settleWrite w response
  let tags := m.stales args response
  let s := if tags.isEmpty then s else (s.invalidate tags).2
  match m.announcement with
  | some message => s.announce (.success message)
  | none => s

/-- The server has refused a write, or was not reached. -/
def giveUp (s : Session) (w : Write) (f : Failure) : Session :=
  let s := s.withdraw w
  { s with notices := (s.notices.announce f).2 }

end Session

end QueryCache
