import QueryCache.Classroom.Catalog
import QueryCache.Proofs.Reach
import QueryCache.Proofs.Tagging

/-!
# A family stands for its members

To declare a family stale is the coarser way to declare one of its members stale.  The two begin at
different tags, and their keys are found in different ways: those of a resource are looked up, and
those of a family are gathered by a scan of every tag of its kind.

Where all rows of a table are those of families, a resource has no row of its own and goes on by that
of its family, so both make the same tags stale from the first step on (`successors_member`).  What is
hit by the one and not by the other is therefore hit at the very beginning (`mem_hitsOf`), where all
depends on the kind of what a key provides.
-/

namespace QueryCache

/-- Every left side of the table is a family. -/
def Cascade.OfFamilies (c : Cascade) : Prop := ∀ t ∈ c.rows.keys, t.id = none

instance (c : Cascade) : Decidable c.OfFamilies :=
  inferInstanceAs (Decidable (∀ t ∈ c.rows.keys, t.id = none))

/-- A member then makes stale what its family does. -/
theorem Cascade.successors_member {c : Cascade} (h : c.OfFamilies) (kind id : String) :
    c.successors (.ofId kind id) = c.successors (.ofKind kind) := by
  have hrow : c.row (.ofId kind id) = [] := by
    apply Std.ExtTreeMap.getD_eq_fallback
    intro hmem
    cases h _ (Std.ExtTreeMap.mem_keys.mpr hmem)
  show c.row (.ofId kind id) ++ c.row (.ofKind kind) = c.row (.ofKind kind) ++ []
  rw [hrow, List.nil_append, List.append_nil]

/-- A tag reaches itself, and all that the tags lead to which it makes stale. -/
theorem Cascade.mem_reach_singleton (c : Cascade) (t u : Tag) :
    u ∈ c.reach [t] ↔ u = t ∨ ∃ s ∈ c.successors t, c.Leads s u := by
  rw [mem_reach]
  simp only [List.mem_singleton, exists_eq_left]
  exact Relation.ReflTransGen.cases_head_iff.trans (or_congr_left eq_comm)

namespace Tagging

/-- The keys that are hit when a tag is declared stale. -/
def hitsOf (g : Tagging) (c : Cascade) (t : Tag) : KeySet := g.keysFor (c.reach [t])

variable {g : Tagging} {c : Cascade} {k : Key}

/-- A key is hit by the tag itself, or by way of what the tag makes stale. -/
theorem mem_hitsOf (h : g.Sound) (t : Tag) :
    k ∈ g.hitsOf c t ↔ (∃ p ∈ g.tagsOf k, t.covers p = true) ∨
      ∃ s ∈ c.successors t, ∃ u, c.Leads s u ∧ ∃ p ∈ g.tagsOf k, u.covers p = true := by
  unfold hitsOf
  rw [mem_keysFor h]
  simp only [Cascade.mem_reach_singleton]
  constructor
  · rintro ⟨u, rfl | ⟨s, hs, hleads⟩, hcovered⟩
    · exact Or.inl hcovered
    · exact Or.inr ⟨s, hs, u, hleads, hcovered⟩
  · rintro (hcovered | ⟨s, hs, u, hleads, hcovered⟩)
    · exact ⟨t, Or.inl rfl, hcovered⟩
    · exact ⟨u, Or.inr ⟨s, hs, hleads⟩, hcovered⟩

/-- **A family hits what its member hits**, and beyond that what provides a tag of its kind. -/
theorem mem_hitsOf_family (h : g.Sound) (hrows : c.OfFamilies) (kind id : String) :
    k ∈ g.hitsOf c (.ofKind kind) ↔
      k ∈ g.hitsOf c (.ofId kind id) ∨ ∃ p ∈ g.tagsOf k, p.kind = kind := by
  rw [mem_hitsOf h, mem_hitsOf h, Cascade.successors_member hrows]
  simp only [Tag.ofKind_covers]
  constructor
  · rintro (hkind | hlater)
    · exact Or.inr hkind
    · exact Or.inl (Or.inr hlater)
  · rintro ((⟨p, hp, hcovers⟩ | hlater) | hkind)
    · exact Or.inl ⟨p, hp, congrArg Tag.kind ((Tag.ofId_covers kind id p).mp hcovers)⟩
    · exact Or.inr hlater
    · exact Or.inl hkind

/-- **Coarser declarations cover finer ones.**  Whatever has been recorded and forgotten, and whatever
the table says of families: a family hits each key that its member hits; and a key that is hit by the
family and not by the member provides a tag of that kind other than the member. -/
theorem family_covers_member (c : Cascade) (hrows : c.OfFamilies) (notes : List Note)
    (kind id : String) :
    (∀ k ∈ (noted notes).hitsOf c (.ofId kind id), k ∈ (noted notes).hitsOf c (.ofKind kind)) ∧
    ∀ k ∈ (noted notes).hitsOf c (.ofKind kind), k ∉ (noted notes).hitsOf c (.ofId kind id) →
      ∃ p ∈ (noted notes).tagsOf k, p.kind = kind ∧ p ≠ .ofId kind id := by
  have hsound := sound_noted notes
  constructor
  · intro k hmember
    exact (mem_hitsOf_family hsound hrows kind id).mpr (Or.inl hmember)
  · intro k hfamily hmember
    obtain ⟨p, hp, hkind⟩ :=
      ((mem_hitsOf_family hsound hrows kind id).mp hfamily).resolve_left hmember
    refine ⟨p, hp, hkind, ?_⟩
    -- Had the key provided the member, it would have been hit at once.
    rintro rfl
    exact hmember ((mem_hitsOf hsound _).mpr (Or.inl ⟨_, hp, Tag.covers_self _⟩))

/-- A key that provides one tag. -/
def provider (name : String) (t : Tag) : Note := .index ⟨name⟩ ((∅ : TagSet).insert t)

/-- Two lessons of a class, the class, and the dashboard. -/
def schoolNotes : List Note :=
  [provider "dashboard" (.ofKind "Dashboard"), provider "class" (.ofId "Class" "1"),
    provider "second" (.ofId "Lesson" "2"), provider "first" (.ofId "Lesson" "1")]

/-- The first lesson hits itself, the class and the dashboard, and all lessons hit the second too. -/
theorem family_covers_member_lessons :
    Classroom.cascade.OfFamilies ∧
    ((noted schoolNotes).hitsOf Classroom.cascade (.ofId "Lesson" "1")).toList =
      [⟨"class"⟩, ⟨"dashboard"⟩, ⟨"first"⟩] ∧
    (∀ k ∈ (noted schoolNotes).hitsOf Classroom.cascade (.ofId "Lesson" "1"),
      k ∈ (noted schoolNotes).hitsOf Classroom.cascade (.ofKind "Lesson")) ∧
    ∃ p ∈ (noted schoolNotes).tagsOf ⟨"second"⟩, p.kind = "Lesson" ∧ p ≠ .ofId "Lesson" "1" := by
  have hrows : Classroom.cascade.OfFamilies := by decide +kernel
  obtain ⟨hcovers, hother⟩ :=
    family_covers_member Classroom.cascade hrows schoolNotes "Lesson" "1"
  refine ⟨hrows, by decide +kernel, hcovers, hother ⟨"second"⟩ ?_ ?_⟩
  · decide +kernel
  · decide +kernel

/-- A row of its own takes a member further than its family. -/
example :
    let c : Cascade := .ofList [(.ofId "Class" "1", [.ofKind "Message"])]
    let g := noted [provider "messages" (.ofKind "Message")]
    ⟨"messages"⟩ ∈ g.hitsOf c (.ofId "Class" "1") ∧ ⟨"messages"⟩ ∉ g.hitsOf c (.ofKind "Class") := by
  decide +kernel

end Tagging

end QueryCache
