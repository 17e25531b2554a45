import QueryCache.Tag.Basic
/-!
# Cascades

What makes one resource stale makes others stale too: a lesson changes its class, a class
changes the dashboard.  A cascade is the table of such relations.  A resource tag follows its
own row and the row of its family, so `successors` is a relation on all tags although the
table is finite.

`reach` closes a list of tags under that relation.  It takes one tag after the other off a
stack; one that it has not seen before is added to those seen, and its successors are put on
the stack.  Only a tag seen for the first time puts anything there, and whatever is put there
stands on the right side of some row, so `stepsLeft` gets less with every step.

A cascade in use has no cycle.  `cycle?` walks depth first from every left side in order and
reports the first cycle it meets, from a tag back to that tag.  A walk goes on only from a tag
that is not on its path, and all but the first of a path stand on right sides, so `stretch`
gets less from one tag to the next.
-/

namespace QueryCache

/-- A table of relations from a tag to the tags it makes stale. -/
structure Cascade where
  rows : Std.ExtTreeMap Tag (List Tag)

namespace Cascade

def empty : Cascade := ⟨∅⟩

/-- The table with these rows; of two with one left side the later counts. -/
def ofList (rows : List (Tag × List Tag)) : Cascade :=
  ⟨rows.foldl (fun table (t, ts) => table.insert t ts) ∅⟩

def isEmpty (c : Cascade) : Bool := c.rows.isEmpty

/-- The right side of a row, empty if the table has no such row. -/
def row (c : Cascade) (t : Tag) : List Tag := c.rows.getD t []

/-- What a tag makes stale in one step: its own row, and for a resource its family's. -/
def successors (c : Cascade) (t : Tag) : List Tag :=
  c.row t ++ if t.id.isSome then c.row t.family else []

/-- Every tag on a right side. -/
def targets (c : Cascade) : List Tag := c.rows.toList.flatMap Prod.snd

variable {c : Cascade} {t u : Tag}

theorem mem_targets_of_row (h : u ∈ c.row t) : u ∈ c.targets := by
  unfold row at h
  rw [Std.ExtTreeMap.getD_eq_getD_getElem?] at h
  cases hrow : c.rows[t]? with
  | none =>
      rw [hrow] at h
      cases h
  | some us =>
      rw [hrow] at h
      exact List.mem_flatMap.mpr
        ⟨(t, us), Std.ExtTreeMap.mem_toList_iff_getElem?_eq_some.mpr hrow, h⟩

/-- What a tag makes stale stands on a right side. -/
theorem mem_targets (h : u ∈ c.successors t) : u ∈ c.targets := by
  unfold successors at h
  rcases List.mem_append.mp h with hown | hfamily
  · exact mem_targets_of_row hown
  · split at hfamily
    · exact mem_targets_of_row hfamily
    · cases hfamily

/-! ## What tags reach -/

/-- What a tag may still put on the stack: its successors, and none once it has been seen. -/
def pushes (c : Cascade) (seen : TagSet) (t : Tag) : List Tag :=
  if t ∈ seen then [] else c.successors t

/-- A bound on the steps that are left.  Whatever is put on the stack later is a target. -/
def stepsLeft (c : Cascade) (stack : List Tag) (seen : TagSet) : Nat :=
  (stack ++ (c.targets ++ stack.filter (· ∉ c.targets)).flatMap (c.pushes seen)).length

/-- What a tag puts on the stack when it is seen, it will not put there again. -/
theorem length_pushes_insert {seen : TagSet} (hnew : t ∉ seen) {l : List Tag} (ht : t ∈ l) :
    (l.flatMap (c.pushes (seen.insert t))).length + (c.successors t).length ≤
      (l.flatMap (c.pushes seen)).length := by
  have hone : ∀ u, (c.pushes (seen.insert t) u).length ≤ (c.pushes seen u).length := by
    intro u
    unfold pushes
    by_cases hu : u ∈ seen
    · simp [Std.ExtTreeSet.mem_insert, hu]
    · split <;> simp
  have hall : ∀ l : List Tag,
      (l.flatMap (c.pushes (seen.insert t))).length ≤ (l.flatMap (c.pushes seen)).length := by
    intro l
    induction l with
    | nil => exact Nat.le_refl _
    | cons u l ih =>
        simp only [List.flatMap_cons, List.length_append]
        exact Nat.add_le_add (hone u) ih
  induction l with
  | nil => cases ht
  | cons u l ih =>
      simp only [List.flatMap_cons, List.length_append]
      rcases List.mem_cons.mp ht with rfl | hlater
      · have hafter : c.pushes (seen.insert t) t = [] := by simp [pushes]
        have hbefore : c.pushes seen t = c.successors t := by simp [pushes, hnew]
        have hrest := hall l
        rw [hafter, hbefore, List.length_nil]
        omega
      · have hhead := hone u
        have hrest := ih hlater
        omega

theorem stepsLeft_pop (stack : List Tag) (seen : TagSet) :
    c.stepsLeft stack seen < c.stepsLeft (t :: stack) seen := by
  have hfewer : ((stack.filter (· ∉ c.targets)).flatMap (c.pushes seen)).length ≤
      (((t :: stack).filter (· ∉ c.targets)).flatMap (c.pushes seen)).length := by
    rw [List.filter_cons]
    split
    · rw [List.flatMap_cons, List.length_append]
      omega
    · exact Nat.le_refl _
  simp only [stepsLeft, List.flatMap_append, List.length_append, List.length_cons]
  omega

theorem stepsLeft_push {seen : TagSet} (hnew : t ∉ seen) (stack : List Tag) :
    c.stepsLeft ((c.successors t).filter (· ∉ seen.insert t) ++ stack) (seen.insert t) <
      c.stepsLeft (t :: stack) seen := by
  have hfew := List.length_filter_le (fun u => decide (u ∉ seen.insert t)) (c.successors t)
  have htargets : ((c.successors t).filter (· ∉ seen.insert t)).filter (· ∉ c.targets) = [] := by
    refine List.filter_eq_nil_iff.mpr fun u hu => ?_
    simpa using mem_targets (List.mem_filter.mp hu).1
  have hthere : t ∈ c.targets ++ (t :: stack).filter (· ∉ c.targets) := by
    by_cases ht : t ∈ c.targets
    · exact List.mem_append_left _ ht
    · exact List.mem_append_right _ (List.mem_filter.mpr ⟨List.mem_cons_self, by simpa using ht⟩)
  have hspent := length_pushes_insert (c := c) hnew hthere
  have hpopped := stepsLeft_pop (c := c) (t := t) stack (seen.insert t)
  unfold stepsLeft at hpopped ⊢
  rw [List.filter_append, htargets, List.nil_append]
  simp only [List.length_append, List.length_cons] at hpopped ⊢
  omega

/-- Sees the tags on a stack, and puts the successors of each that is new on the stack. -/
def sweep (c : Cascade) (stack : List Tag) (seen : TagSet) : TagSet :=
  match stack with
  | [] => seen
  | t :: stack =>
    if t ∈ seen then c.sweep stack seen
    else
      c.sweep ((c.successors t).filter (· ∉ seen.insert t) ++ stack) (seen.insert t)
termination_by c.stepsLeft stack seen
decreasing_by
  · exact stepsLeft_pop stack seen
  · exact stepsLeft_push ‹_› stack

/-- Everything that is stale once these tags are. -/
def reach (c : Cascade) (tags : List Tag) : TagSet := c.sweep tags ∅

/-! ## Cycles -/

/-- A bound on how far a walk can go on: twice the targets that are not on the path, and one more
for a start that is no target. -/
def stretch (c : Cascade) (path : List Tag) (t : Tag) : Nat :=
  2 * (c.targets.filter (· ∉ path)).length + if t ∈ c.targets then 0 else 1

theorem stretch_step {path : List Tag} (hnew : t ∉ path) (hstep : u ∈ c.successors t) :
    c.stretch (t :: path) u < c.stretch path t := by
  have hfewer : c.targets.filter (· ∉ t :: path) =
      (c.targets.filter (· ∉ path)).filter (· ≠ t) := by
    rw [List.filter_filter]
    exact List.filter_congr fun v _ => by simp
  unfold stretch
  rw [hfewer, if_pos (mem_targets hstep)]
  split
  · rename_i ht
    have hleft : t ∈ c.targets.filter (· ∉ path) := List.mem_filter.mpr ⟨ht, by simpa using hnew⟩
    have hless : ((c.targets.filter (· ∉ path)).filter (· ≠ t)).length <
        (c.targets.filter (· ∉ path)).length :=
      List.length_filter_lt_length_iff_exists.mpr ⟨t, hleft, by simp⟩
    omega
  · have hle := List.length_filter_le (fun v => decide (v ≠ t)) (c.targets.filter (· ∉ path))
    omega

/-- Walks on from a tag.  `path` leads to it, latest tag first; `done` are the tags known to
reach no cycle, and is returned with what the walk adds to it.  Fails with a cycle. -/
def walk (c : Cascade) (path : List Tag) (done : TagSet) (t : Tag) :
    Except (List Tag) TagSet :=
  if t ∈ done then .ok done
  else if t ∈ path then .error (t :: (path.takeWhile (· ≠ t)).reverse ++ [t])
  else do
    let done ← (c.successors t).attach.foldlM (fun done u => c.walk (t :: path) done u.1) done
    .ok (done.insert t)
termination_by c.stretch path t
decreasing_by exact stretch_step ‹_› u.2

/-- A cycle among the relations, if there is one. -/
def cycle? (c : Cascade) : Option (List Tag) :=
  match c.rows.keys.foldlM (c.walk []) ∅ with
  | .error path => some path
  | .ok _ => none

/-- What is said of a cycle. -/
def cycleText (path : List Tag) : String :=
  "cyclic tag relation: " ++ " -> ".intercalate (path.map Tag.text)

end Cascade

end QueryCache
