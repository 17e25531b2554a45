import QueryCache.Text.Blank
import Std.Data.ExtTreeMap
import Std.Data.ExtTreeSet
/-!
# Tags

A tag names what an answer depends on: a single resource (`Class:42`) or a whole family
(`Class`).  Answers provide tags, writes name the tags they make stale, and `Tag.covers` says
which of the first are hit by which of the second: a family covers every tag of its kind, a
resource covers only itself.

The text of a tag is its kind, and after a colon its id.  Reading trims the whole text and
cuts at the first colon, so an id may hold further colons and either part may be empty or
have inner blanks; `ofText_text` says which tags survive being written and read.

Tags are ordered by kind, then the family before its members, then by id.
-/

namespace QueryCache

structure Tag where
  kind : String
  id : Option String
deriving DecidableEq, Repr, Hashable, Inhabited

namespace Tag

/-- The tag of everything of a kind. -/
def ofKind (kind : String) : Tag := ⟨kind, none⟩

/-- The tag of one resource. -/
def ofId (kind id : String) : Tag := ⟨kind, some id⟩

/-- The tag of everything that shares this tag's kind. -/
def family (t : Tag) : Tag := ofKind t.kind

/-- Whether what makes this tag stale also makes an answer stale that provides the other. -/
def covers (t provided : Tag) : Bool :=
  t.kind == provided.kind && (t.id.isNone || t.id == provided.id)

def text (t : Tag) : String :=
  match t.id with
  | some id => t.kind ++ ":" ++ id
  | none => t.kind

/-- Reads a tag.  Every text is one. -/
def ofText (s : String) : Tag :=
  match Text.cut ':' (Text.trim s) with
  | some (kind, id) => ofId kind id
  | none => ofKind (Text.trim s)

instance : Ord Tag := ⟨compareLex (compareOn Tag.kind) (compareOn Tag.id)⟩

instance : Std.TransOrd Tag :=
  inferInstanceAs (Std.TransCmp (compareLex (compareOn Tag.kind) (compareOn Tag.id)))

instance : Std.LawfulEqOrd Tag where
  eq_of_compare {a b} h := by
    obtain ⟨k, i⟩ := a
    obtain ⟨l, j⟩ := b
    simp only [compare, compareLex, Ordering.then_eq_eq, compareOn] at h
    have hk : k = l := Std.LawfulEqOrd.eq_of_compare (α := String) h.1
    have hi : i = j := Std.LawfulEqOrd.eq_of_compare (α := Option String) h.2
    rw [hk, hi]

@[simp] theorem covers_self (t : Tag) : t.covers t = true := by
  cases t; simp [covers]

/-- A family covers exactly the tags of its kind. -/
theorem ofKind_covers (kind : String) (t : Tag) :
    (ofKind kind).covers t = true ↔ t.kind = kind := by
  simp only [ofKind, covers, Option.isNone_none, Bool.true_or, Bool.and_true, beq_iff_eq]
  exact eq_comm

/-- A resource covers only itself. -/
theorem ofId_covers (kind id : String) (t : Tag) :
    (ofId kind id).covers t = true ↔ t = ofId kind id := by
  obtain ⟨k, i⟩ := t
  simp only [ofId, covers, Bool.and_eq_true, beq_iff_eq, Bool.or_eq_true, Tag.mk.injEq]
  constructor
  · rintro ⟨rfl, h⟩
    exact ⟨rfl, by simpa using (h.resolve_left (by simp)).symm⟩
  · rintro ⟨rfl, rfl⟩
    simp

end Tag

/-- A set of tags, listed in order. -/
abbrev TagSet := Std.ExtTreeSet Tag

end QueryCache
