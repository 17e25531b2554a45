import QueryCache.Failure
import QueryCache.Feed
/-!
# Notices

What is announced to the user: that a write has succeeded, or that something has failed.
Failures of some kinds are handled elsewhere and are not announced.
-/

namespace QueryCache

inductive Notice where
  | success (message : String)
  | failure (kind : FailureKind) (message : String)
deriving DecidableEq, Repr

/-- The notice a failure gives rise to, if its kind is announced. -/
def Notice.ofFailure? (f : Failure) : Option Notice :=
  if f.kind.isAnnounced then some (.failure f.kind f.message) else none

/-- Announces a failure, and answers whether it was one to announce. -/
def Feed.announce (feed : Feed Notice) (f : Failure) : Bool × Feed Notice :=
  match Notice.ofFailure? f with
  | some notice => (true, feed.send notice)
  | none => (false, feed)

end QueryCache
