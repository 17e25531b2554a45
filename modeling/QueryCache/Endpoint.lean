import QueryCache.Key
import QueryCache.Overlay.Edit
import QueryCache.Request
import QueryCache.Tag.Basic
/-!
# Reads and writes a server offers

An endpoint is a read that can be cached: the request made from its arguments, and the tags
that an answer to it provides.  A mutation is a write: its request, the tags that are stale
once the server has confirmed it, and what is announced then.
-/

namespace QueryCache

structure Endpoint where
  name : String
  request : Json → Request
  /-- The tags an answer provides, from the arguments and the answer. -/
  provides : Json → Json → List Tag
  /-- The class whose interval it is polled at while somebody watches. -/
  pollClass : Option String
  /-- Whether callers may share a flight.  If not, every call reaches the server. -/
  shared : Bool

namespace Endpoint

def keyOf (e : Endpoint) (args : Json) : Key := .ofCall e.name args

def tagsOf (e : Endpoint) (args data : Json) : TagSet := .ofList (e.provides args data)

end Endpoint

structure Mutation where
  name : String
  request : Json → Request
  /-- The tags it makes stale, from the arguments and the server's answer. -/
  stales : Json → Json → List Tag
  /-- What is announced of a success. -/
  announcement : Option String

/-- An edit that a mutation makes to one call before the server has answered. -/
structure SpeculativeEdit where
  target : Key
  edit : Edit
deriving DecidableEq, Repr

end QueryCache
