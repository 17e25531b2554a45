import QueryCache.Tag.Tagging
/-!
# Which keys a tag hits

The two tables of a `Tagging` are meant to say the same thing from two sides, and to have no row
that says nothing.  `Sound` states it, recording and forgetting keep it, and under it `keysFor`
is what it should be: the keys that provide a tag covered by one of the tags given
(`mem_keysFor`).

A history of what is recorded and forgotten tells by itself which tags a key has: those of its last
record, unless the key has been forgotten since (`lastIndexed`).  The tables lose nothing of it
(`lossless`).
-/

namespace QueryCache.Tagging

/-- Each table is the inverse of the other, and neither holds empty sets. -/
structure Sound (g : Tagging) : Prop where
  inverse : ∀ k t, k ∈ g.keysOf t ↔ t ∈ g.tagsOf k
  keyed : ∀ (k : Key) (tags : TagSet), g.byKey[k]? = some tags → tags ≠ ∅
  tagged : ∀ (t : Tag) (keys : KeySet), g.byTag[t]? = some keys → keys ≠ ∅

/-- The tables are sound at first, with nothing on record. -/
theorem Sound.empty : Tagging.empty.Sound where
  inverse := by
    intro k t
    simp [Tagging.empty, keysOf, tagsOf]
  keyed := by
    intro k tags hrow
    simp [Tagging.empty] at hrow
  tagged := by
    intro t keys hrow
    simp [Tagging.empty] at hrow

/-- The rows of the one table are told by the tags of each key. -/
theorem Sound.row_iff {g : Tagging} (h : g.Sound) (k : Key) (tags : TagSet) :
    g.byKey[k]? = some tags ↔ g.tagsOf k = tags ∧ tags ≠ ∅ := by
  unfold tagsOf
  rw [Std.ExtTreeMap.getD_eq_getD_getElem?]
  constructor
  · intro hrow
    rw [hrow]
    exact ⟨rfl, h.keyed k tags hrow⟩
  · intro hkey
    obtain ⟨htags, hfull⟩ := hkey
    cases hrow : g.byKey[k]? with
    | none =>
        rw [hrow] at htags
        exact absurd htags.symm hfull
    | some found =>
        rw [hrow] at htags
        exact congrArg some htags

/-- The rows of the other are told by the keys of each tag. -/
theorem Sound.column_iff {g : Tagging} (h : g.Sound) (t : Tag) (keys : KeySet) :
    g.byTag[t]? = some keys ↔ g.keysOf t = keys ∧ keys ≠ ∅ := by
  unfold keysOf
  rw [Std.ExtTreeMap.getD_eq_getD_getElem?]
  constructor
  · intro hrow
    rw [hrow]
    exact ⟨rfl, h.tagged t keys hrow⟩
  · intro hcolumn
    obtain ⟨hkeys, hfull⟩ := hcolumn
    cases hrow : g.byTag[t]? with
    | none =>
        rw [hrow] at hkeys
        exact absurd hkeys.symm hfull
    | some found =>
        rw [hrow] at hkeys
        exact congrArg some hkeys

/-- Linking a key to some tags adds it to their lists and to no other. -/
theorem mem_link (k : Key) (ts : List Tag) :
    ∀ (byTag : Std.ExtTreeMap Tag KeySet) (k' : Key) (t : Tag),
      k' ∈ (ts.foldl (link k) byTag).getD t ∅ ↔ k' ∈ byTag.getD t ∅ ∨ (k' = k ∧ t ∈ ts) := by
  induction ts with
  | nil => intro byTag k' t; simp
  | cons u ts ih =>
      intro byTag k' t
      rw [List.foldl_cons, ih]
      have hone : k' ∈ (link k byTag u).getD t ∅ ↔
          k' ∈ byTag.getD t ∅ ∨ (k' = k ∧ t = u) := by
        rw [link, Std.ExtTreeMap.getD_insert]
        by_cases htu : u = t
        · subst htu
          simp only [Std.compare_self, if_true, Std.ExtTreeSet.mem_insert,
            Std.compare_eq_iff_eq, and_true]
          rw [or_comm, eq_comm]
        · simp [htu, Ne.symm htu]
      rw [hone, List.mem_cons]
      grind

/-- Unlinking a key from some tags takes it off their lists and off no other. -/
theorem mem_unlink (k : Key) (ts : List Tag) :
    ∀ (byTag : Std.ExtTreeMap Tag KeySet) (k' : Key) (t : Tag),
      k' ∈ (ts.foldl (unlink k) byTag).getD t ∅ ↔ k' ∈ byTag.getD t ∅ ∧ ¬(k' = k ∧ t ∈ ts) := by
  induction ts with
  | nil => intro byTag k' t; simp
  | cons u ts ih =>
      intro byTag k' t
      rw [List.foldl_cons, ih]
      have hone : k' ∈ (unlink k byTag u).getD t ∅ ↔
          k' ∈ byTag.getD t ∅ ∧ ¬(k' = k ∧ t = u) := by
        by_cases htu : u = t
        · subst htu
          have herase : k' ∈ (byTag.getD u ∅).erase k ↔
              k' ∈ byTag.getD u ∅ ∧ ¬ k' = k := by
            rw [Std.ExtTreeSet.mem_erase, Ne, Std.compare_eq_iff_eq, and_comm, eq_comm (a := k)]
          unfold unlink
          by_cases hrest : ((byTag.getD u ∅).erase k).isEmpty
          · rw [Std.ExtTreeSet.isEmpty_iff.mp hrest] at herase
            simp only [hrest, if_true, Std.ExtTreeMap.getD_erase_self]
            rw [herase]
            simp
          · simp only [hrest, Bool.false_eq_true, if_false, Std.ExtTreeMap.getD_insert_self]
            rw [herase]
            simp
        · unfold unlink
          by_cases hrest : ((byTag.getD u ∅).erase k).isEmpty
          · simp [hrest, Std.ExtTreeMap.getD_erase, htu, Ne.symm htu]
          · simp [hrest, Std.ExtTreeMap.getD_insert, htu, Ne.symm htu]
      rw [hone, List.mem_cons]
      grind

/-- A key that is forgotten has no tags, and the others have theirs. -/
theorem tagsOf_remove (g : Tagging) (k k' : Key) :
    (g.remove k).tagsOf k' = if k' = k then ∅ else g.tagsOf k' := by
  unfold remove tagsOf
  rw [Std.ExtTreeMap.getD_erase]
  by_cases h : k' = k
  · simp [h]
  · simp [h, Ne.symm h]

/-- The tags of a key that is forgotten have lost it, and no other key. -/
theorem mem_keysOf_remove (g : Tagging) (k k' : Key) (t : Tag) :
    k' ∈ (g.remove k).keysOf t ↔ k' ∈ g.keysOf t ∧ ¬(k' = k ∧ t ∈ g.tagsOf k) := by
  unfold remove keysOf
  rw [mem_unlink, Std.ExtTreeSet.mem_toList]

/-- Linking a key leaves no tag without keys. -/
theorem filled_link (k : Key) (ts : List Tag) :
    ∀ byTag : Std.ExtTreeMap Tag KeySet,
      (∀ (t : Tag) (keys : KeySet), byTag[t]? = some keys → keys ≠ ∅) →
      ∀ (t : Tag) (keys : KeySet), (ts.foldl (link k) byTag)[t]? = some keys → keys ≠ ∅ := by
  induction ts with
  | nil => exact fun _ h => h
  | cons u ts ih =>
      intro byTag h
      refine ih _ fun t keys hrow => ?_
      rw [link, Std.ExtTreeMap.getElem?_insert] at hrow
      split at hrow
      · obtain rfl := Option.some.inj hrow
        exact Std.ExtTreeSet.insert_ne_empty
      · exact h t keys hrow

/-- Neither does unlinking one. -/
theorem filled_unlink (k : Key) (ts : List Tag) :
    ∀ byTag : Std.ExtTreeMap Tag KeySet,
      (∀ (t : Tag) (keys : KeySet), byTag[t]? = some keys → keys ≠ ∅) →
      ∀ (t : Tag) (keys : KeySet), (ts.foldl (unlink k) byTag)[t]? = some keys → keys ≠ ∅ := by
  induction ts with
  | nil => exact fun _ h => h
  | cons u ts ih =>
      intro byTag h
      refine ih _ fun t keys hrow => ?_
      unfold unlink at hrow
      by_cases hrest : ((byTag.getD u ∅).erase k).isEmpty
      · simp only [hrest, if_true] at hrow
        rw [Std.ExtTreeMap.getElem?_erase] at hrow
        split at hrow
        · cases hrow
        · exact h t keys hrow
      · simp only [hrest, Bool.false_eq_true, if_false] at hrow
        rw [Std.ExtTreeMap.getElem?_insert] at hrow
        split at hrow
        · obtain rfl := Option.some.inj hrow
          exact fun hempty => hrest (Std.ExtTreeSet.isEmpty_iff.mpr hempty)
        · exact h t keys hrow

/-- Forgetting keeps the tables sound. -/
theorem Sound.remove {g : Tagging} (h : g.Sound) (k : Key) : (g.remove k).Sound where
  inverse := by
    intro k' t
    rw [mem_keysOf_remove, tagsOf_remove, h.inverse k' t]
    by_cases hk : k' = k
    · subst hk
      simp
    · simp [hk]
  keyed := by
    intro k' tags hrow
    rw [Tagging.remove, Std.ExtTreeMap.getElem?_erase] at hrow
    split at hrow
    · cases hrow
    · exact h.keyed k' tags hrow
  tagged := filled_unlink k _ g.byTag h.tagged

/-- A key that is recorded has these tags, and the others have theirs. -/
theorem tagsOf_index (g : Tagging) (k : Key) (tags : TagSet) (k' : Key) :
    (g.index k tags).tagsOf k' = if k' = k then tags else g.tagsOf k' := by
  have hrest := tagsOf_remove g k k'
  unfold index
  by_cases hempty : tags.isEmpty
  · have htags : tags = ∅ := Std.ExtTreeSet.isEmpty_iff.mp hempty
    simpa [hempty, htags, tagsOf] using hrest
  · unfold tagsOf at hrest ⊢
    simp only [hempty, Bool.false_eq_true, if_false]
    rw [Std.ExtTreeMap.getD_insert]
    by_cases hk : k' = k
    · simp [hk]
    · rw [hrest]
      simp [hk, Ne.symm hk]

/-- The tags recorded have the key now, and those it had before have lost it. -/
theorem mem_keysOf_index (g : Tagging) (k : Key) (tags : TagSet) (k' : Key) (t : Tag) :
    k' ∈ (g.index k tags).keysOf t ↔
      k' ∈ (g.remove k).keysOf t ∨ (k' = k ∧ t ∈ tags) := by
  unfold index keysOf
  rw [mem_link, Std.ExtTreeSet.mem_toList]

/-- Recording keeps the tables sound. -/
theorem Sound.index {g : Tagging} (h : g.Sound) (k : Key) (tags : TagSet) :
    (g.index k tags).Sound where
  inverse := by
    intro k' t
    rw [mem_keysOf_index, tagsOf_index, (h.remove k).inverse k' t, tagsOf_remove]
    by_cases hk : k' = k
    · simp [hk]
    · simp [hk]
  keyed := by
    intro k' tags' hrow
    unfold Tagging.index at hrow
    by_cases hempty : tags.isEmpty
    · simp only [hempty, if_true] at hrow
      exact (h.remove k).keyed k' tags' hrow
    · simp only [hempty, Bool.false_eq_true, if_false] at hrow
      rw [Std.ExtTreeMap.getElem?_insert] at hrow
      split at hrow
      · obtain rfl := Option.some.inj hrow
        exact fun hnone => hempty (Std.ExtTreeSet.isEmpty_iff.mpr hnone)
      · exact (h.remove k).keyed k' tags' hrow
  tagged := filled_link k _ _ (h.remove k).tagged

/-- Inserting a list adds its elements. -/
theorem mem_foldl_insert {α : Type} [Ord α] [Std.TransOrd α] [Std.LawfulEqOrd α] (l : List α) :
    ∀ (s : Std.ExtTreeSet α) (a : α), a ∈ l.foldl (·.insert ·) s ↔ a ∈ s ∨ a ∈ l := by
  induction l with
  | nil => intro s a; simp
  | cons b l ih =>
      intro s a
      rw [List.foldl_cons, ih, Std.ExtTreeSet.mem_insert, List.mem_cons]
      rw [Std.compare_eq_iff_eq, eq_comm]
      grind

/-- The direct lookup and the scan of a family agree with `Tag.covers`. -/
theorem mem_keysUnder {g : Tagging} (h : g.Sound) (t : Tag) (k : Key) :
    k ∈ g.keysUnder t ↔ ∃ p ∈ g.tagsOf k, t.covers p = true := by
  unfold keysUnder
  obtain ⟨kind, id⟩ := t
  cases id with
  | some id =>
      rw [Std.ExtTreeSet.mem_toList, h.inverse]
      constructor
      · intro hp
        exact ⟨_, hp, Tag.covers_self _⟩
      · intro hcovered
        obtain ⟨p, hp, hc⟩ := hcovered
        rwa [(Tag.ofId_covers kind id p).mp hc] at hp
  | none =>
      simp only [List.mem_flatMap]
      constructor
      · intro hlisted
        obtain ⟨⟨p, ks⟩, hrow, hk⟩ := hlisted
        rw [Std.ExtTreeMap.mem_toList_iff_getElem?_eq_some] at hrow
        by_cases hc : Tag.covers ⟨kind, none⟩ p
        · rw [if_pos hc, Std.ExtTreeSet.mem_toList] at hk
          refine ⟨p, (h.inverse k p).mp ?_, hc⟩
          rwa [keysOf, Std.ExtTreeMap.getD_eq_getD_getElem?, hrow]
        · simp [hc] at hk
      · intro hcovered
        obtain ⟨p, hp, hc⟩ := hcovered
        have hk : k ∈ g.keysOf p := (h.inverse k p).mpr hp
        cases hrow : g.byTag[p]? with
        | none =>
            rw [keysOf, Std.ExtTreeMap.getD_eq_getD_getElem?, hrow] at hk
            simp at hk
        | some ks =>
            rw [keysOf, Std.ExtTreeMap.getD_eq_getD_getElem?, hrow] at hk
            refine ⟨⟨p, ks⟩, Std.ExtTreeMap.mem_toList_iff_getElem?_eq_some.mpr hrow, ?_⟩
            rw [if_pos hc, Std.ExtTreeSet.mem_toList]
            exact hk

/-- **What tags hit.**  A set of tags hits exactly the keys that provide a tag covered by one of
them. -/
theorem mem_keysFor {g : Tagging} (h : g.Sound) (tags : TagSet) (k : Key) :
    k ∈ g.keysFor tags ↔ ∃ t ∈ tags, ∃ p ∈ g.tagsOf k, t.covers p = true := by
  unfold keysFor
  rw [mem_foldl_insert]
  simp only [Std.ExtTreeSet.not_mem_empty, false_or, List.mem_flatMap, Std.ExtTreeSet.mem_toList,
    mem_keysUnder h]

/-! ## Along a history -/

/-- What can be done to the tables. -/
inductive Note where
  | index (k : Key) (tags : TagSet)
  | remove (k : Key)
  | clear

/-- The tables with one more thing noted. -/
def note (g : Tagging) : Note → Tagging
  | .index k tags => g.index k tags
  | .remove k => g.remove k
  | .clear => .empty

/-- The tables after a history, the latest note first. -/
def noted : List Note → Tagging
  | [] => .empty
  | n :: earlier => (noted earlier).note n

/-- The tags that a key was last recorded with, if it has not been forgotten since. -/
def lastIndexed (k : Key) : List Note → TagSet
  | [] => ∅
  | .index k' tags :: earlier => if k = k' then tags else lastIndexed k earlier
  | .remove k' :: earlier => if k = k' then ∅ else lastIndexed k earlier
  | .clear :: _ => ∅

/-- Whatever is noted keeps the tables sound. -/
theorem Sound.note {g : Tagging} (h : g.Sound) (n : Note) : (g.note n).Sound := by
  cases n with
  | index k tags => exact h.index k tags
  | remove k => exact h.remove k
  | clear => exact .empty

/-- The tables are sound after every history. -/
theorem sound_noted (notes : List Note) : (noted notes).Sound := by
  induction notes with
  | nil => exact .empty
  | cons n earlier ih => exact ih.note n

theorem tagsOf_empty (k : Key) : Tagging.empty.tagsOf k = ∅ := by
  simp [Tagging.empty, tagsOf]

/-- A key has the tags it was last recorded with. -/
theorem tagsOf_noted (notes : List Note) (k : Key) :
    (noted notes).tagsOf k = lastIndexed k notes := by
  induction notes with
  | nil => exact tagsOf_empty k
  | cons n earlier ih =>
      cases n with
      | index k' tags =>
          have hindex := tagsOf_index (noted earlier) k' tags k
          rwa [ih] at hindex
      | remove k' =>
          have hremove := tagsOf_remove (noted earlier) k' k
          rwa [ih] at hremove
      | clear => exact tagsOf_empty k

/-- **The tables lose nothing.**  After every history each is the inverse of the other, neither has
an empty row, and a key has the tags that it was last recorded with.  So a set of tags hits exactly
the keys whose last record has a tag covered by one of them, by whichever of the two ways each tag
is looked up. -/
theorem lossless (notes : List Note) :
    (noted notes).Sound ∧
    (∀ k, (noted notes).tagsOf k = lastIndexed k notes) ∧
    (∀ t k, k ∈ (noted notes).keysUnder t ↔ ∃ p ∈ lastIndexed k notes, t.covers p = true) ∧
    ∀ tags k, k ∈ (noted notes).keysFor tags ↔
      ∃ t ∈ tags, ∃ p ∈ lastIndexed k notes, t.covers p = true := by
  have hsound := sound_noted notes
  have htags := tagsOf_noted notes
  refine ⟨hsound, htags, fun t k => ?_, fun tags k => ?_⟩
  · rw [mem_keysUnder hsound, htags]
  · rw [mem_keysFor hsound, htags]

end QueryCache.Tagging
