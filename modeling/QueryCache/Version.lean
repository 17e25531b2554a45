import QueryCache.Json.Basic
/-!
# Versions of data

Data in the cache is never changed in place: a fetch, an edit or a commit puts a new version
there, and every version has a stamp of its own.  Who holds on to a version sees by the stamp
whether the data was replaced, without comparing contents.
-/

namespace QueryCache

structure Version where
  stamp : Nat
  value : Json
deriving DecidableEq, Repr

end QueryCache
