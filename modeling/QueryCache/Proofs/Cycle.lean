import Mathlib.Data.List.Chain
import Mathlib.Data.List.Nodup
import QueryCache.Proofs.Reach
/-!
# Cycles of a cascade

A walk takes a tag for done once everything that it makes stale is done.  The tags that are done are
therefore closed under the relations, and none of them is on a cycle (`Finished`): the tags on the
path that leads to a walk are not done before the walk is over, so the tag done last is none that
the tags done before it lead to.

The search begins only at left sides.  That is enough, although a cycle may run through resources
that are no left side and go on by the row of their family: whatever is made stale at all stands in
the row of some left side (`acyclic_of_finished`).

A walk that comes upon a tag of its own path has found a cycle, which is the part of the path from
that tag on (`isCycle_of_path`).  So the search finds a cycle if there is one, and what it reports
is one (`cycle_search_exact`).
-/

namespace QueryCache.Cascade

/-- The one tag makes the other stale in one step. -/
def Relates (c : Cascade) (t u : Tag) : Prop := u ∈ c.successors t

/-- A tag is on a cycle. -/
def Circular (c : Cascade) (t : Tag) : Prop := Relation.TransGen c.Relates t t

/-- A way along the relations from a tag back to it, on which no other tag comes twice. -/
structure IsCycle (c : Cascade) (path : List Tag) : Prop where
  long : 2 ≤ path.length
  closed : path.head? = path.getLast?
  once : path.dropLast.Nodup
  steps : path.IsChain c.Relates

/-- Tags that make stale only one another, none of them on a cycle. -/
structure Finished (c : Cascade) (done : TagSet) : Prop where
  closed : ∀ t ∈ done, ∀ u, c.Relates t u → u ∈ done
  acyclic : ∀ t ∈ done, ¬ c.Circular t

variable {c : Cascade} {path : List Tag} {done done' : TagSet} {t u : Tag}

namespace Finished

/-- At first no tag is done. -/
theorem empty (c : Cascade) : c.Finished ∅ where
  closed := fun _ ht => absurd ht Std.ExtTreeSet.not_mem_empty
  acyclic := fun _ ht => absurd ht Std.ExtTreeSet.not_mem_empty

/-- Whatever a finished tag leads to is finished. -/
theorem mem_of_leads (h : c.Finished done) (ht : t ∈ done) (hleads : c.Leads t u) :
    u ∈ done := by
  induction hleads with
  | refl => exact ht
  | tail _ hstep ih => exact h.closed _ ih _ hstep

/-- What makes only finished tags stale is on a cycle only if it is finished itself. -/
theorem mem_of_circular (h : c.Finished done) (hnext : ∀ u, c.Relates t u → u ∈ done)
    (hcircular : c.Circular t) : t ∈ done := by
  obtain ⟨u, hstep, hback⟩ := Relation.TransGen.head'_iff.mp hcircular
  exact h.mem_of_leads (hnext u hstep) hback

/-- A tag is finished when all that it makes stale is. -/
theorem insert (h : c.Finished done) (hnext : ∀ u, c.Relates t u → u ∈ done) (hnew : t ∉ done) :
    c.Finished (done.insert t) where
  closed := by
    intro s hs u hstep
    refine mem_insert.mpr (Or.inr ?_)
    rcases mem_insert.mp hs with rfl | hold
    · exact hnext u hstep
    · exact h.closed s hold u hstep
  acyclic := by
    intro s hs hcircular
    rcases mem_insert.mp hs with rfl | hold
    · exact hnew (h.mem_of_circular hnext hcircular)
    · exact h.acyclic s hold hcircular

end Finished

/-! ## Walks that find no cycle -/

/-- The tags that are done between walks: they are finished, and none of them is on the path. -/
structure Steady (c : Cascade) (path : List Tag) (done : TagSet) : Prop where
  finished : c.Finished done
  off : ∀ p ∈ path, p ∉ done

/-- Walks from some tags leave all of these done, and those that were done before. -/
structure Walked (c : Cascade) (path us : List Tag) (done done' : TagSet) : Prop where
  steady : c.Steady path done'
  kept : ∀ s ∈ done, s ∈ done'
  reached : ∀ u ∈ us, u ∈ done'

/-- Walks in turn do what each of them does. -/
theorem walked_foldlM {us : List Tag}
    (hone : ∀ u ∈ us, ∀ {done done'}, c.Steady path done → c.walk path done u = .ok done' →
      c.Walked path [u] done done')
    (hsteady : c.Steady path done) (h : us.foldlM (c.walk path) done = .ok done') :
    c.Walked path us done done' := by
  induction us generalizing done with
  | nil =>
      obtain rfl : done = done' := Except.ok.inj h
      exact ⟨hsteady, fun _ hs => hs, nofun⟩
  | cons u us ih =>
      rw [List.foldlM_cons] at h
      cases hwalk : c.walk path done u with
      | error cycle =>
          rw [hwalk] at h
          cases h
      | ok between =>
          rw [hwalk] at h
          have hfirst := hone u List.mem_cons_self hsteady hwalk
          have hrest := ih (fun v hv => hone v (List.mem_cons_of_mem u hv)) hfirst.steady h
          refine ⟨hrest.steady, fun s hs => hrest.kept s (hfirst.kept s hs), ?_⟩
          have hu := hrest.kept u (hfirst.reached u List.mem_cons_self)
          exact List.forall_mem_cons.mpr ⟨hu, hrest.reached⟩

/-- A walk from a new tag goes on to all that the tag makes stale. -/
theorem walk_new (hdone : t ∉ done) (hpath : t ∉ path) :
    c.walk path done t =
      (do
        let done ← (c.successors t).foldlM (c.walk (t :: path)) done
        .ok (done.insert t)) := by
  rw [walk, if_neg hdone, if_neg hpath]
  simp

/-- **A walk that finds no cycle** finishes the tag that it begins at. -/
theorem walked_walk (hsteady : c.Steady path done) (h : c.walk path done t = .ok done') :
    c.Walked path [t] done done' := by
  induction path, done, t using walk.induct c generalizing done' with
  | case1 path done t hdone =>
      rw [walk, if_pos hdone] at h
      obtain rfl := Except.ok.inj h
      exact ⟨hsteady, fun _ hs => hs, List.forall_mem_singleton.mpr hdone⟩
  | case2 path done t hdone hpath =>
      rw [walk, if_neg hdone, if_pos hpath] at h
      cases h
  | case3 path done t hdone hpath ih =>
      rw [walk_new hdone hpath] at h
      obtain ⟨last, hwalks, rfl⟩ : ∃ last,
          (c.successors t).foldlM (c.walk (t :: path)) done = .ok last ∧ last.insert t = done' := by
        cases hwalks : (c.successors t).foldlM (c.walk (t :: path)) done with
        | error cycle =>
            rw [hwalks] at h
            cases h
        | ok last =>
            rw [hwalks] at h
            exact ⟨last, rfl, Except.ok.inj h⟩
      have hon : ∀ p ∈ t :: path, p ∉ done := List.forall_mem_cons.mpr ⟨hdone, hsteady.off⟩
      have hnext := walked_foldlM (fun u hu _ _ => ih _ ⟨u, hu⟩) ⟨hsteady.finished, hon⟩ hwalks
      obtain ⟨hnew, hoff⟩ := List.forall_mem_cons.mp hnext.steady.off
      refine ⟨⟨hnext.steady.finished.insert hnext.reached hnew, fun p hp hmem => ?_⟩, ?_, ?_⟩
      · rcases mem_insert.mp hmem with rfl | hold
        · exact hpath hp
        · exact hoff p hp hold
      · exact fun s hs => mem_insert.mpr (Or.inr (hnext.kept s hs))
      · exact List.forall_mem_singleton.mpr (mem_insert.mpr (Or.inl rfl))

/-- If all left sides are finished, there is no cycle. -/
theorem acyclic_of_finished (h : c.Finished done) (hkeys : ∀ t ∈ c.rows.keys, t ∈ done) (t : Tag) :
    ¬ c.Circular t := by
  have hrow : ∀ {s u}, u ∈ c.row s → c.Relates s u ∧ s ∈ done := by
    intro s u hu
    refine ⟨List.mem_append_left _ hu, hkeys s ?_⟩
    rw [Std.ExtTreeMap.mem_keys]
    refine Classical.byContradiction fun hnone => ?_
    rw [row, Std.ExtTreeMap.getD_eq_fallback hnone] at hu
    cases hu
  intro hcircular
  refine h.acyclic t (h.mem_of_circular (fun u hstep => ?_) hcircular) hcircular
  -- The row may be that of the family, which is a left side even where the resource is none.
  rcases List.mem_append.mp hstep with hown | hfamily
  · obtain ⟨hrelates, hdone⟩ := hrow hown
    exact h.closed t hdone u hrelates
  · split at hfamily
    · obtain ⟨hrelates, hdone⟩ := hrow hfamily
      exact h.closed t.family hdone u hrelates
    · cases hfamily

/-! ## Walks that find one -/

/-- The part of a path from a tag on is a cycle if the path leads to that tag again. -/
theorem isCycle_of_path (hpath : t ∈ path) (honce : path.Nodup)
    (hsteps : (t :: path).IsChain fun u s => c.Relates s u) :
    c.IsCycle (t :: (path.takeWhile (· ≠ t)).reverse ++ [t]) := by
  obtain ⟨later, earlier, rfl, hfirst⟩ := List.eq_append_cons_of_mem hpath
  have hpart : (later ++ t :: earlier).takeWhile (· ≠ t) = later := by
    have hother : ∀ s ∈ later, decide (s ≠ t) = true := by
      intro s hs
      exact decide_eq_true fun heq => hfirst (heq ▸ hs)
    rw [List.takeWhile_append_of_pos hother, List.takeWhile_cons]
    simp
  rw [hpart]
  refine ⟨by simp, ?_, ?_, ?_⟩
  · rw [List.getLast?_concat]
    rfl
  · rw [List.dropLast_concat]
    refine List.nodup_cons.mpr ⟨by simpa using hfirst, ?_⟩
    exact List.nodup_reverse.mpr (honce.sublist (List.sublist_append_left later _))
  · have hround : (t :: later ++ [t]).IsChain fun u s => c.Relates s u := by
      refine hsteps.prefix ⟨earlier, ?_⟩
      simp
    have hreverse : t :: later.reverse ++ [t] = (t :: later ++ [t]).reverse := by simp
    rw [hreverse]
    exact List.isChain_reverse.mpr hround

/-- If one of several walks in turn finds a cycle, that one does. -/
theorem exists_of_foldlM_error {us : List Tag} {cycle : List Tag}
    (h : us.foldlM (c.walk path) done = .error cycle) :
    ∃ u ∈ us, ∃ done', c.walk path done' u = .error cycle := by
  induction us generalizing done with
  | nil => cases h
  | cons u us ih =>
      rw [List.foldlM_cons] at h
      cases hwalk : c.walk path done u with
      | error found =>
          rw [hwalk] at h
          obtain rfl := Except.error.inj h
          exact ⟨u, List.mem_cons_self, done, hwalk⟩
      | ok between =>
          rw [hwalk] at h
          obtain ⟨v, hv, hlater⟩ := ih h
          exact ⟨v, List.mem_cons_of_mem u hv, hlater⟩

/-- **What a walk reports** is a cycle. -/
theorem isCycle_walk {cycle : List Tag} (honce : path.Nodup)
    (hsteps : (t :: path).IsChain fun u s => c.Relates s u)
    (h : c.walk path done t = .error cycle) : c.IsCycle cycle := by
  induction path, done, t using walk.induct c generalizing cycle with
  | case1 path done t hdone =>
      rw [walk, if_pos hdone] at h
      cases h
  | case2 path done t hdone hpath =>
      rw [walk, if_neg hdone, if_pos hpath] at h
      obtain rfl := Except.error.inj h
      exact isCycle_of_path hpath honce hsteps
  | case3 path done t hdone hpath ih =>
      rw [walk_new hdone hpath] at h
      have hwalks : (c.successors t).foldlM (c.walk (t :: path)) done = .error cycle := by
        cases hwalks : (c.successors t).foldlM (c.walk (t :: path)) done with
        | error found =>
            rw [hwalks] at h
            exact h
        | ok last =>
            rw [hwalks] at h
            cases h
      obtain ⟨u, hu, done', hwalk⟩ := exists_of_foldlM_error hwalks
      exact ih done' ⟨u, hu⟩ (List.nodup_cons.mpr ⟨hpath, honce⟩)
        (List.isChain_cons_cons.mpr ⟨hu, hsteps⟩) hwalk

/-- A cycle leads from its first tag back to it. -/
theorem IsCycle.circular (h : c.IsCycle path) : ∃ t, c.Circular t := by
  obtain ⟨hlong, hclosed, -, hsteps⟩ := h
  match path with
  | [] | [_] => simp at hlong
  | t :: u :: rest =>
      obtain ⟨hfirst, hrest⟩ := List.isChain_cons_cons.mp hsteps
      have hback : (u :: rest).getLast (List.cons_ne_nil u rest) = t := by
        rw [List.getLast_eq_iff_getLast?_eq_some]
        simpa using hclosed.symm
      have hleads := List.relationReflTransGen_of_exists_isChain_cons rest hrest hback
      exact ⟨t, Relation.TransGen.head' hfirst hleads⟩

/-- **The search for a cycle.**  It finds none exactly if no tag whatever is on one, and what it
reports leads along the relations from a tag back to it, with no other tag twice. -/
theorem cycle_search_exact (c : Cascade) :
    (c.cycle? = none ↔ ∀ t, ¬ c.Circular t) ∧ ∀ path, c.cycle? = some path → c.IsCycle path := by
  unfold cycle?
  cases hsearch : c.rows.keys.foldlM (c.walk []) ∅ with
  | error found =>
      obtain ⟨t, -, done, hwalk⟩ := exists_of_foldlM_error hsearch
      have hcycle : c.IsCycle found := isCycle_walk List.nodup_nil (List.isChain_singleton t) hwalk
      obtain ⟨s, hcircular⟩ := hcycle.circular
      refine ⟨⟨nofun, fun hnone => absurd hcircular (hnone s)⟩, fun path hpath => ?_⟩
      exact Option.some.inj hpath ▸ hcycle
  | ok done =>
      have hstart : c.Steady [] ∅ := ⟨.empty c, nofun⟩
      have hwalked := walked_foldlM (fun _ _ _ _ hsteady => walked_walk hsteady) hstart hsearch
      have hacyclic := acyclic_of_finished hwalked.steady.finished hwalked.reached
      exact ⟨⟨fun _ => hacyclic, fun _ => rfl⟩, nofun⟩

/-- A resource that is no left side goes on by the row of its family. -/
example : (Cascade.ofList
    [(.ofKind "Class", [.ofId "Lesson" "1"]), (.ofKind "Lesson", [.ofKind "Class"])]).cycle? =
      some [.ofKind "Class", .ofId "Lesson" "1", .ofKind "Class"] := by decide +kernel

end QueryCache.Cascade
