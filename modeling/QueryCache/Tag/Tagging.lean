import QueryCache.Key
import QueryCache.Tag.Basic
/-!
# Which key provides which tag

Two tables, each the inverse of the other: from a key to the tags its entry provides, and
from a tag to the keys that provide it.  Neither holds empty sets.

`keysFor` answers which keys a set of tags hits.  A resource tag is looked up directly; a
family tag scans for every tag of its kind.  Both amount to `Tag.covers`.
-/

namespace QueryCache

structure Tagging where
  byKey : KeyMap TagSet
  byTag : Std.ExtTreeMap Tag KeySet

namespace Tagging

def empty : Tagging := ⟨∅, ∅⟩

/-- The tags on record for a key. -/
def tagsOf (g : Tagging) (k : Key) : TagSet := g.byKey.getD k ∅

/-- The keys on record for a tag. -/
def keysOf (g : Tagging) (t : Tag) : KeySet := g.byTag.getD t ∅

/-- Notes that a key provides a tag. -/
def link (k : Key) (byTag : Std.ExtTreeMap Tag KeySet) (t : Tag) : Std.ExtTreeMap Tag KeySet :=
  byTag.insert t ((byTag.getD t ∅).insert k)

/-- Takes a key off a tag's list, and an emptied list off the table. -/
def unlink (k : Key) (byTag : Std.ExtTreeMap Tag KeySet) (t : Tag) : Std.ExtTreeMap Tag KeySet :=
  let rest := (byTag.getD t ∅).erase k
  if rest.isEmpty then byTag.erase t else byTag.insert t rest

/-- Forgets a key. -/
def remove (g : Tagging) (k : Key) : Tagging where
  byKey := g.byKey.erase k
  byTag := (g.tagsOf k).toList.foldl (unlink k) g.byTag

/-- Records the tags a key provides, in place of those it provided before. -/
def index (g : Tagging) (k : Key) (tags : TagSet) : Tagging :=
  let g := g.remove k
  { byKey := if tags.isEmpty then g.byKey else g.byKey.insert k tags
    byTag := tags.toList.foldl (link k) g.byTag }

/-- The keys hit by one tag. -/
def keysUnder (g : Tagging) (t : Tag) : List Key :=
  match t.id with
  | some _ => (g.keysOf t).toList
  | none => g.byTag.toList.flatMap fun (provided, keys) =>
      if t.covers provided then keys.toList else []

/-- The keys that provide a tag covered by one of these. -/
def keysFor (g : Tagging) (tags : TagSet) : KeySet :=
  (tags.toList.flatMap g.keysUnder).foldl (·.insert ·) ∅

end Tagging

end QueryCache
