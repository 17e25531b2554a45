import QueryCache.Key
import QueryCache.Overlay.Edit
import QueryCache.Version
/-!
# Overlays

What a screen shows of a call is the last value known from the server with the edits laid
over it that wait for confirmation.  An overlay keeps both apart: the base, and the pending
edits in the order they were made, each with the number of the write it belongs to.

* `apply` lays one more edit over what is shown.
* `rollback` takes the edits of a write away again and shows the base with the rest replayed;
  when no edit is left the base itself comes back, the very version it was.
* `commit` makes the edits of a write part of the base, as the server's answer settles them.
* `rebase` puts a freshly fetched value underneath.

A call without pending edits has no overlay.  Every new value is a new version; stamps are
counted up here.
-/

namespace QueryCache

/-- An edit that waits for its write to be confirmed. -/
structure PendingEdit where
  write : Nat
  edit : Edit
deriving DecidableEq, Repr

structure Overlay where
  base : Version
  pending : List PendingEdit
deriving DecidableEq, Repr

structure Overlays where
  /-- The field that records are told apart by. -/
  idField : String
  logs : KeyMap Overlay
  nextStamp : Nat

/-- The value with all these edits made in turn. -/
def replay (idField : String) (value : Json) (pending : List PendingEdit) : Json :=
  pending.foldl (fun v p => p.edit.apply idField v) value

namespace Overlays

def empty (idField : String) : Overlays := ⟨idField, ∅, 0⟩

/-- A new version with this value. -/
def mint (o : Overlays) (value : Json) : Version × Overlays :=
  (⟨o.nextStamp, value⟩, { o with nextStamp := o.nextStamp + 1 })

def get? (o : Overlays) (k : Key) : Option Overlay := o.logs[k]?

def forget (o : Overlays) (k : Key) : Overlays := { o with logs := o.logs.erase k }

def clear (o : Overlays) : Overlays := { o with logs := ∅ }

/-- Lays an edit over what is shown at a call, and answers what is shown then.  The first edit
makes what was shown the base. -/
def apply (o : Overlays) (write : Nat) (k : Key) (shown : Version) (e : Edit) :
    Version × Overlays :=
  let log := (o.get? k).getD ⟨shown, []⟩
  let log := { log with pending := log.pending ++ [⟨write, e⟩] }
  mint { o with logs := o.logs.insert k log } (e.apply o.idField shown.value)

/-- Keeps an overlay as long as edits are pending, and answers what is shown now. -/
def settle (o : Overlays) (k : Key) (log : Overlay) : Version × Overlays :=
  if log.pending.isEmpty then (log.base, o.forget k)
  else mint { o with logs := o.logs.insert k log } (replay o.idField log.base.value log.pending)

/-- Makes the edits of a write part of the base.  Answers what is shown now, and nothing if
the write has no edits here. -/
def commit (o : Overlays) (write : Nat) (k : Key) (response : Json) :
    Option Version × Overlays :=
  match o.get? k with
  | none => (none, o)
  | some log =>
    let (own, rest) := log.pending.partition fun p => p.write == write
    if own.isEmpty then (none, o)
    else
      let value := own.foldl (fun v p => p.edit.settled o.idField response v) log.base.value
      let (base, o) := o.mint value
      let (shown, o) := o.settle k ⟨base, rest⟩
      (some shown, o)

/-- Takes the edits of a write away.  Answers what is shown now, and nothing if the write has
no edits here. -/
def rollback (o : Overlays) (write : Nat) (k : Key) : Option Version × Overlays :=
  match o.get? k with
  | none => (none, o)
  | some log =>
    let (own, rest) := log.pending.partition fun p => p.write == write
    if own.isEmpty then (none, o)
    else
      let (shown, o) := o.settle k { log with pending := rest }
      (some shown, o)

/-- Puts a fetched value underneath, and answers what is shown now. -/
def rebase (o : Overlays) (k : Key) (fetched : Version) : Version × Overlays :=
  match o.get? k with
  | none => (fetched, o)
  | some log => o.settle k { log with base := fetched }

end Overlays

end QueryCache
