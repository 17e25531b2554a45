import Mathlib.Logic.Relation
import QueryCache.Tag.Cascade
/-!
# What a cascade reaches

`reach` takes tags off a stack until none is left.  All the while a tag that a seen one makes stale
has been seen as well or is on the stack, and nothing gets there that no chain of relations leads to
from the tags given (`Sweeping`).  Taking a seen tag off keeps this (`Sweeping.pop`), and so does
seeing a new one (`Sweeping.push`), although a tag may be put on the stack many times.

With the stack empty, the tags seen are closed under the relations, so they are exactly the tags that
a chain of relations leads to (`mem_reach`).  All else that is to be said of `reach` follows from
this (`reach_closure`).
-/

namespace QueryCache.Cascade

/-- Some relations in turn make the one tag stale because the other is. -/
def Leads (c : Cascade) : Tag → Tag → Prop :=
  Relation.ReflTransGen fun t u => u ∈ c.successors t

theorem mem_insert {tags : TagSet} {s t : Tag} : s ∈ tags.insert t ↔ s = t ∨ s ∈ tags := by
  rw [Std.ExtTreeSet.mem_insert, Std.compare_eq_iff_eq, eq_comm]

/-- A sweep that began with some tags is where these are on the stack and those have been seen. -/
structure Sweeping (c : Cascade) (tags stack : List Tag) (seen : TagSet) : Prop where
  /-- None of the tags it began with is forgotten. -/
  given : ∀ t ∈ tags, t ∈ seen ∨ t ∈ stack
  /-- Nor is any that a seen one makes stale. -/
  next : ∀ t ∈ seen, ∀ u ∈ c.successors t, u ∈ seen ∨ u ∈ stack
  /-- And nothing else comes up. -/
  led : ∀ u, u ∈ seen ∨ u ∈ stack → ∃ t ∈ tags, c.Leads t u

namespace Sweeping

variable {c : Cascade} {tags stack : List Tag} {seen : TagSet} {t u : Tag}

/-- At first the tags given are on the stack, and none has been seen. -/
theorem start (c : Cascade) (tags : List Tag) : c.Sweeping tags tags ∅ where
  given := fun _ ht => Or.inr ht
  next := fun _ ht => absurd ht Std.ExtTreeSet.not_mem_empty
  led := by
    intro u hu
    exact ⟨u, hu.resolve_left Std.ExtTreeSet.not_mem_empty, .refl⟩

/-- A tag that has been seen is passed over. -/
theorem pop (h : c.Sweeping tags (t :: stack) seen) (ht : t ∈ seen) :
    c.Sweeping tags stack seen := by
  have hstill : ∀ {u}, u ∈ seen ∨ u ∈ t :: stack → u ∈ seen ∨ u ∈ stack := by
    intro u hu
    rcases hu with hseen | hstack
    · exact Or.inl hseen
    · rcases List.mem_cons.mp hstack with rfl | hlater
      · exact Or.inl ht
      · exact Or.inr hlater
  refine ⟨fun s hs => hstill (h.given s hs), fun s hs u hu => hstill (h.next s hs u hu), ?_⟩
  exact fun u hu => h.led u (hu.imp_right (List.mem_cons_of_mem t))

/-- A new tag is seen, and what it makes stale comes on the stack unless it has been seen. -/
theorem push (h : c.Sweeping tags (t :: stack) seen) :
    c.Sweeping tags ((c.successors t).filter (· ∉ seen.insert t) ++ stack) (seen.insert t) := by
  have hstill : ∀ {u}, u ∈ seen ∨ u ∈ t :: stack →
      u ∈ seen.insert t ∨ u ∈ (c.successors t).filter (· ∉ seen.insert t) ++ stack := by
    intro u hu
    rcases hu with hseen | hstack
    · exact Or.inl (mem_insert.mpr (Or.inr hseen))
    · rcases List.mem_cons.mp hstack with rfl | hlater
      · exact Or.inl (mem_insert.mpr (Or.inl rfl))
      · exact Or.inr (List.mem_append_right _ hlater)
  refine ⟨fun s hs => hstill (h.given s hs), fun s hs u hu => ?_, fun u hu => ?_⟩
  · rcases mem_insert.mp hs with rfl | hold
    · by_cases hseen : u ∈ seen.insert s
      · exact Or.inl hseen
      · refine Or.inr (List.mem_append_left _ (List.mem_filter.mpr ⟨hu, ?_⟩))
        simpa using hseen
    · exact hstill (h.next s hold u hu)
  · have hhead := h.led t (Or.inr List.mem_cons_self)
    rcases hu with hseen | hstack
    · rcases mem_insert.mp hseen with rfl | hold
      · exact hhead
      · exact h.led u (Or.inl hold)
    · rcases List.mem_append.mp hstack with hpushed | hlater
      · obtain ⟨s, hs, hleads⟩ := hhead
        exact ⟨s, hs, hleads.tail (List.mem_filter.mp hpushed).1⟩
      · exact h.led u (Or.inr (List.mem_cons_of_mem t hlater))

/-- With the stack empty, what has been seen is all that the tags lead to. -/
theorem mem_iff (h : c.Sweeping tags [] seen) : u ∈ seen ↔ ∃ t ∈ tags, c.Leads t u := by
  constructor
  · exact fun hu => h.led u (Or.inl hu)
  · rintro ⟨t, ht, hleads⟩
    induction hleads with
    | refl => exact (h.given t ht).resolve_right List.not_mem_nil
    | tail _ hstep ih => exact (h.next _ ih _ hstep).resolve_right List.not_mem_nil

/-- A sweep goes on until the stack is empty. -/
theorem mem_sweep (h : c.Sweeping tags stack seen) :
    u ∈ c.sweep stack seen ↔ ∃ t ∈ tags, c.Leads t u := by
  fun_induction sweep c stack seen with
  | case1 seen => exact h.mem_iff
  | case2 seen t stack hseen ih => exact ih (h.pop hseen)
  | case3 seen t stack hnew ih => exact ih h.push

end Sweeping

variable {c : Cascade} {tags tags' : List Tag} {t u : Tag}

/-- **What a cascade reaches.**  It is what chains of relations lead to from the tags given. -/
theorem mem_reach (c : Cascade) (tags : List Tag) (u : Tag) :
    u ∈ c.reach tags ↔ ∃ t ∈ tags, c.Leads t u :=
  (Sweeping.start c tags).mem_sweep

/-- What tags reach is told by which tags they are. -/
theorem reach_congr (h : ∀ t, t ∈ tags ↔ t ∈ tags') : c.reach tags = c.reach tags' := by
  refine Std.ExtTreeSet.ext_mem fun u => ?_
  simp only [mem_reach, h]

/-- Tags together reach what each of them reaches. -/
theorem reach_append (c : Cascade) (tags tags' : List Tag) :
    c.reach (tags ++ tags') = c.reach tags ∪ c.reach tags' := by
  refine Std.ExtTreeSet.ext_mem fun u => ?_
  simp only [Std.ExtTreeSet.mem_union_iff, mem_reach, List.mem_append, or_and_right, exists_or]

/-- Who reaches what is reached reaches nothing more. -/
theorem reach_reach (c : Cascade) (tags : List Tag) :
    c.reach (c.reach tags).toList = c.reach tags := by
  refine Std.ExtTreeSet.ext_mem fun u => ?_
  rw [mem_reach]
  simp only [Std.ExtTreeSet.mem_toList, mem_reach]
  constructor
  · rintro ⟨s, ⟨t, ht, hfirst⟩, hsecond⟩
    exact ⟨t, ht, hfirst.trans hsecond⟩
  · rintro ⟨t, ht, hleads⟩
    exact ⟨t, ⟨t, ht, .refl⟩, hleads⟩

/-- **The closure under a cascade.**  Whatever the table, with cycles or without: a list of tags
reaches exactly what chains of relations lead to from its tags.  Neither the order of the list nor
repetitions in it matter, two lists together reach what each of them reaches, and what is reached
reaches nothing more. -/
theorem reach_closure (c : Cascade) (tags : List Tag) :
    (∀ u, u ∈ c.reach tags ↔ ∃ t ∈ tags, c.Leads t u) ∧
    (∀ tags', (∀ t, t ∈ tags ↔ t ∈ tags') → c.reach tags = c.reach tags') ∧
    (∀ tags', c.reach (tags ++ tags') = c.reach tags ∪ c.reach tags') ∧
    c.reach (c.reach tags).toList = c.reach tags :=
  ⟨mem_reach c tags, fun _ => reach_congr, reach_append c tags, reach_reach c tags⟩

end QueryCache.Cascade
