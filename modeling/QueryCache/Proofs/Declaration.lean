import QueryCache.Proofs.Course
import QueryCache.Proofs.Reach
import QueryCache.Proofs.Shown
/-!
# What a declaration does

The tags on record are at every key those of its entry (`indexed_after`), so the two tables of a
session's tagging list the entries that have tags, each with its own (`Indexed.listsEntries`).
Therefore a declaration hits the entries that provide a tag covered by one it leads to
(`mem_hits_iff`).  An entry that is hit is declared stale, and perhaps its fetch begins; the others
are left as they were (`read_invalidate`).

A row of declarations adds up: stale is what was stale before, and what any of them hits
(`mem_staleKeys_declared`).  None of them hits more or less because of the others, so their order
is of no account, nor is how the tags are shared out among them.
-/

namespace QueryCache

/-- Among the tags provided is one that is covered by a tag these lead to. -/
def Cascade.Hits (c : Cascade) (tags : List Tag) (provided : TagSet) : Prop :=
  ∃ t ∈ tags, ∃ u, c.Leads t u ∧ ∃ p ∈ provided, u.covers p = true

/-- Two declarations hit what one of them hits. -/
theorem Cascade.hits_append {c : Cascade} {tags tags' : List Tag} {provided : TagSet} :
    c.Hits (tags ++ tags') provided ↔ c.Hits tags provided ∨ c.Hits tags' provided := by
  simp only [Hits, List.mem_append, or_and_right, exists_or]

/-- The order of the tags declared, and how often they come, is of no account. -/
theorem Cascade.hits_congr {c : Cascade} {tags tags' : List Tag} (h : ∀ t, t ∈ tags ↔ t ∈ tags')
    (provided : TagSet) : c.Hits tags provided ↔ c.Hits tags' provided := by
  simp only [Hits, h]

/-! ## The tags on record -/

namespace Cell

/-- The tags on record are those of the entry. -/
def Indexed (c : Cell) : Prop := c.tags = (c.entry.map Entry.tags).getD ∅

variable {setup : Setup} {k : Key} {c c' : Cell}

/-- An entry with the same tags takes the place of the one there was. -/
theorem Indexed.of_same (h : c.Indexed) {e : Entry} (hentry : c.entry = some e)
    (htags : c'.tags = c.tags) (hentry' : c'.entry.map Entry.tags = some e.tags) : c'.Indexed := by
  unfold Indexed at h ⊢
  rw [hentry] at h
  rw [htags, h, hentry']
  rfl

/-- Tags are put on record, and taken off it, together with the entry. -/
theorem Indexed.step (h : c.Indexed) (hstep : Step setup k c c') : c'.Indexed := by
  cases hstep with
  | drift hn => exact h
  | make hnone hblank hunwatched hlists hkey =>
      have hbefore : c.tags = ∅ := by
        unfold Indexed at h
        rwa [hnone] at h
      exact hbefore.trans hblank.2.2.2.2.symm
  | @turn e e' hentry halike hwatch =>
      have hsame : e'.tags = e.tags := by rw [halike]
      exact h.of_same hentry rfl (congrArg some hsame)
  | depart hentry hepoch hserves hopen => exact h.of_same hentry rfl rfl
  | strike hentry htags hidle => exact h.of_same hentry rfl rfl
  | strikeAndDepart hentry htags hn hepoch hserves hopen => exact h.of_same hentry rfl rfl
  | load hair hentry => rfl
  | fail hair hentry => exact h.of_same hentry rfl rfl
  | miss hair hnone => exact h
  | settle hlanded hdone => exact h
  | drop hentry hunwatched => rfl
  | clear => rfl

/-- The tags on record stay those of the entry over a chain of steps. -/
theorem Indexed.chain (h : c.Indexed) (hchain : Relation.ReflTransGen (Step setup k) c c') :
    c'.Indexed := by
  induction hchain with
  | refl => exact h
  | tail _ hstep ih => exact ih.step hstep

end Cell

namespace Cache

/-- The stale keys are those of the stale entries. -/
theorem mem_staleKeys (c : Cache) (now : Nat) (k : Key) :
    k ∈ c.staleKeys now ↔ ∃ e, c.read k = some e ∧ e.isStale now c.keep = true := by
  have hkeys : k ∈ c.keys ↔ (c.read k).isSome := by
    unfold keys read
    rw [Std.ExtTreeMap.mem_keys, Std.ExtTreeMap.mem_iff_isSome_getElem?]
  unfold staleKeys isStale
  rw [List.mem_filter, hkeys]
  cases c.read k <;> simp

end Cache

namespace Session

variable {s : Session} {k : Key} {tags : List Tag}

/-- What is said of the tags of an entry holds of any entry with the same. -/
theorem exists_tags_congr {o o' : Option Entry} (h : o.map Entry.tags = o'.map Entry.tags)
    {P : TagSet → Prop} : (∃ e, o = some e ∧ P e.tags) ↔ ∃ e, o' = some e ∧ P e.tags := by
  cases o <;> cases o' <;> simp_all

/-- The tagging lists every entry that has tags, with these, and nothing else; and it lists the
same from the side of the tags. -/
structure ListsEntries (s : Session) : Prop where
  byKey : ∀ k tags, s.tagging.byKey[k]? = some tags ↔
    tags ≠ ∅ ∧ ∃ e, s.read k = some e ∧ e.tags = tags
  byTag : ∀ t keys, s.tagging.byTag[t]? = some keys ↔
    keys ≠ ∅ ∧ ∀ k, k ∈ keys ↔ ∃ e, s.read k = some e ∧ t ∈ e.tags

/-- The tags on record are at every key those of its entry. -/
def Indexed (s : Session) : Prop :=
  ∀ k, s.tagging.tagsOf k = ((s.read k).map Entry.tags).getD ∅

/-- A key has the tags of its entry on record. -/
theorem Indexed.mem_tagsOf (h : s.Indexed) (k : Key) (t : Tag) :
    t ∈ s.tagging.tagsOf k ↔ ∃ e, s.read k = some e ∧ t ∈ e.tags := by
  rw [h k]
  cases s.read k <;> simp

/-- A sound tagging with the tags of the entries lists them from both sides. -/
theorem Indexed.listsEntries (h : s.Indexed) (hsound : s.tagging.Sound) : s.ListsEntries where
  byKey := by
    intro k tags
    rw [hsound.row_iff, h k]
    cases hread : s.read k with
    | none => simp [eq_comm]
    | some e => simp [and_comm]
  byTag := by
    intro t keys
    have hkeys : ∀ k, k ∈ s.tagging.keysOf t ↔ ∃ e, s.read k = some e ∧ t ∈ e.tags :=
      fun k => (hsound.inverse k t).trans (h.mem_tagsOf k t)
    rw [hsound.column_iff]
    constructor
    · intro hcolumn
      obtain ⟨rfl, hfull⟩ := hcolumn
      exact ⟨hfull, hkeys⟩
    · intro hcolumn
      obtain ⟨hfull, hmem⟩ := hcolumn
      exact ⟨Std.ExtTreeSet.ext_mem fun k => (hkeys k).trans (hmem k).symm, hfull⟩

/-- Which keys a declaration answers to have hit. -/
theorem mem_hits_iff (hindexed : s.Indexed) (hsound : s.tagging.Sound) :
    k ∈ (s.invalidate tags).1 ↔
      ∃ e, s.read k = some e ∧ s.setup.cascade.Hits tags e.tags := by
  rw [hits_invalidate, Tagging.mem_keysFor hsound]
  simp only [Cascade.mem_reach, hindexed.mem_tagsOf]
  constructor
  · intro hhit
    obtain ⟨u, ⟨t, ht, hleads⟩, p, ⟨e, hread, hp⟩, hcovers⟩ := hhit
    exact ⟨e, hread, t, ht, u, hleads, p, hp, hcovers⟩
  · intro hhit
    obtain ⟨e, hread, t, ht, u, hleads, p, hp, hcovers⟩ := hhit
    exact ⟨u, ⟨t, ht, hleads⟩, p, ⟨e, hread, hp⟩, hcovers⟩

/-! ## What becomes of the entries -/

/-- An entry whose fetch may have begun. -/
def Begun (before after : Option Entry) : Prop :=
  after = before ∨ after = before.map Entry.beginFetch

/-- A fetch that is made again leaves the entry, but that its fetch may have begun. -/
theorem begun_refetch (hknown : s.Known) (k : Key) : Begun (s.read k) ((s.refetch k).read k) := by
  cases hread : s.read k with
  | none =>
      rw [refetch_absent hread]
      exact Or.inl hread
  | some e =>
      rcases refetch_cases hknown hread with ⟨hjoin, -⟩ | ⟨endpoint, -, -, hdepart⟩
      · rw [hjoin]
        exact Or.inl hread
      · rw [hdepart]
        exact Or.inr (read_depart hread endpoint e.args e.epoch)

/-- It leaves the entries of other keys as they are. -/
theorem read_refetch_ne (hknown : s.Known) {k' : Key} (hk : k ≠ k') :
    (s.refetch k').read k = s.read k := by
  obtain ⟨n, -, hcell⟩ := cell_refetch_ne hknown hk
  exact congrArg Cell.entry (hcell (fun _ => none) none none)

/-- Some keys are fetched again. -/
theorem begun_refetches (l : List Key) (hknown : s.Known) (k : Key) :
    Begun (s.read k) ((l.foldl refetch s).read k) := by
  induction l generalizing s with
  | nil => exact Or.inl rfl
  | cons k' l ih =>
      have hrest := ih (hknown.leads (leads_refetch hknown k'))
      rw [List.foldl_cons]
      by_cases hk : k = k'
      · subst hk
        -- A fetch that has begun does not begin once more.
        have htwice : ∀ o : Option Entry,
            (o.map Entry.beginFetch).map Entry.beginFetch = o.map Entry.beginFetch := by
          intro o
          cases o <;> rfl
        rcases begun_refetch hknown k with hsame | hbegun
        · rwa [hsame] at hrest
        · rw [hbegun] at hrest
          rcases hrest with hkept | hagain
          · exact Or.inr hkept
          · exact Or.inr (hagain.trans (htwice _))
      · rwa [read_refetch_ne hknown hk] at hrest

/-- An entry that is hit is declared stale, and perhaps its fetch begins; any other is left as it
was. -/
theorem read_invalidate (hknown : s.Known) (tags : List Tag) (k : Key) :
    (k ∈ (s.invalidate tags).1 →
      Begun ((s.read k).map Entry.invalidate) ((s.invalidate tags).2.read k)) ∧
    (k ∉ (s.invalidate tags).1 → (s.invalidate tags).2.read k = s.read k) := by
  obtain ⟨l, hl⟩ : ∃ l, l = s.present (s.tagging.keysFor (s.setup.cascade.reach tags)) := ⟨_, rfl⟩
  have hnodup : l.Nodup := hl ▸ nodup_present s _
  have hstruck := hasStruck_publishes hknown hnodup
  have hbegun := begun_refetches ((s.struck l).idle l) hstruck.known k
  have hmem : k ∈ l ↔ k ∈ (s.invalidate tags).1 ∧ (s.read k).isSome := by
    rw [hl, hits_invalidate]
    exact mem_present s _ k
  rw [invalidate_eq s tags l hl]
  constructor
  · intro hhit
    rw [hstruck.read] at hbegun
    split at hbegun
    · exact hbegun
    · rename_i habsent
      have hnone : s.read k = none := by
        simpa [hhit] using mt hmem.mpr habsent
      rw [hnone] at hbegun ⊢
      exact hbegun
  · intro hmiss
    have hother : k ∉ l := fun hk => hmiss (hmem.mp hk).1
    have hidle : k ∉ (s.struck l).idle l := fun hk => hother ((mem_idle l k).mp hk).1
    obtain ⟨n, -, hcells⟩ := cell_refetches_ne _ hstruck.known hidle
    have hread := congrArg Cell.entry (hcells (fun _ => none) none none)
    refine Eq.trans hread ?_
    exact (hstruck.read k).trans (if_neg hother)

/-- A declaration takes no tag off an entry and gives it none. -/
theorem tags_invalidate (hknown : s.Known) (tags : List Tag) (k : Key) :
    ((s.invalidate tags).2.read k).map Entry.tags = (s.read k).map Entry.tags := by
  obtain ⟨hhit, hmiss⟩ := read_invalidate hknown tags k
  by_cases hk : k ∈ (s.invalidate tags).1
  · rcases hhit hk with hread | hread
    · rw [hread, Option.map_map]
      rfl
    · rw [hread, Option.map_map, Option.map_map]
      rfl
  · rw [hmiss hk]

/-! ## Which keys are stale -/

theorem keep_depart (s : Session) (k : Key) (endpoint : Endpoint) (args : Json) (epoch : Nat) :
    (s.depart k endpoint args epoch).2.cache.keep = s.cache.keep := by
  rw [depart_eq]
  unfold ask Session.change
  split <;> split <;> first | exact s.cache.keep_write k Entry.beginFetch | rfl

theorem keep_refetch (s : Session) (k : Key) : (s.refetch k).cache.keep = s.cache.keep := by
  unfold refetch launch
  split
  · split
    · split
      · rfl
      · exact keep_depart s k _ _ _
    · rfl
  · rfl

/-- The grace period stays over a row of operations that leave it alone. -/
theorem keep_foldl {α : Type} {g : Session → α → Session}
    (hg : ∀ (s : Session) (a : α), (g s a).cache.keep = s.cache.keep) (l : List α) (s : Session) :
    (l.foldl g s).cache.keep = s.cache.keep := by
  induction l generalizing s with
  | nil => rfl
  | cons a l ih => exact (ih (g s a)).trans (hg s a)

/-- A declaration leaves the grace period alone. -/
theorem keep_invalidate (s : Session) (tags : List Tag) :
    (s.invalidate tags).2.cache.keep = s.cache.keep := by
  have hpublish : ∀ (s : Session) (k : Key), (s.publish k).cache.keep = s.cache.keep :=
    fun _ _ => rfl
  have halter : ∀ (s : Session) (k : Key), (s.alter k Entry.invalidate).cache.keep = s.cache.keep :=
    fun s k => s.cache.keep_write k Entry.invalidate
  rw [invalidate_eq s tags _ rfl, keep_foldl keep_refetch, keep_foldl hpublish, struck,
    keep_foldl halter]

theorem mem_staleKeys (s : Session) (now : Nat) (k : Key) :
    k ∈ s.staleKeys now ↔ ∃ e, s.read k = some e ∧ e.isStale now s.cache.keep = true :=
  s.cache.mem_staleKeys now k

theorem read_takeErrands (s : Session) : s.takeErrands.2.read = s.read := rfl

theorem staleKeys_takeErrands (s : Session) : s.takeErrands.2.staleKeys = s.staleKeys := rfl

/-- Stale after a declaration is what was stale before, and what it hits. -/
theorem mem_staleKeys_invalidate (hknown : s.Known) (hindexed : s.Indexed)
    (hsound : s.tagging.Sound) (tags : List Tag) (now : Nat) (k : Key) :
    k ∈ (s.invalidate tags).2.staleKeys now ↔
      k ∈ s.staleKeys now ∨ k ∈ (s.invalidate tags).1 := by
  obtain ⟨hhit, hmiss⟩ := read_invalidate hknown tags k
  rw [mem_staleKeys, mem_staleKeys, keep_invalidate]
  by_cases hk : k ∈ (s.invalidate tags).1
  · obtain ⟨e, hread, -⟩ := (mem_hits_iff hindexed hsound).mp hk
    simp only [hk, or_true, iff_true]
    rcases hhit hk with hafter | hafter
    · exact ⟨e.invalidate, by rw [hafter, hread]; rfl, rfl⟩
    · exact ⟨e.invalidate.beginFetch, by rw [hafter, hread]; rfl, rfl⟩
  · simp only [hk, or_false, hmiss hk]

/-- A declaration hits the entries that provide a tag covered by one it leads to, and declares
these stale and no other; it leaves the other entries as they were, and what every key shows. -/
structure HitsExactly (s : Session) (tags : List Tag) : Prop where
  hits : ∀ k, k ∈ (s.invalidate tags).1 ↔
    ∃ e, s.read k = some e ∧ s.setup.cascade.Hits tags e.tags
  stale : ∀ now k, k ∈ (s.invalidate tags).2.staleKeys now ↔
    k ∈ s.staleKeys now ∨ k ∈ (s.invalidate tags).1
  others : ∀ k, k ∉ (s.invalidate tags).1 → (s.invalidate tags).2.read k = s.read k
  data : ∀ k, (s.invalidate tags).2.dataAt k = s.dataAt k

end Session

/-! ## Rows of declarations -/

namespace Situation

variable {setup : Setup} {endpoints : List Endpoint} {h : History} {k : Key}

/-- In every situation the tags on record are those of the entries. -/
theorem indexed_after (hnamed : setup.WellNamed) (h : History) :
    (after setup h).session.Indexed := by
  have hcell : ∀ k, (cellAfter setup k h).Indexed := by
    intro k
    induction h with
    | nil =>
        simp [cellAfter, cell, Session.cell, Cell.Indexed, read_start, after]
        simp [start, Session.start, Tagging.empty, Tagging.tagsOf]
    | cons event h ih =>
        obtain ⟨now, e⟩ := event
        exact ih.chain (chain_after hnamed k now e h)
  exact hcell

/-- Some declarations, all at one moment, the last one first. -/
def declared (now : Nat) (rows : List (List Tag)) : History :=
  rows.map fun tags => (now, .invalidate tags)

/-- A row of declarations leaves the tags of every entry, and makes stale what any of them hits
by these. -/
theorem mem_staleKeys_declared (hnamed : setup.WellNamed) (now : Nat) (rows : List (List Tag))
    (h : History) (k : Key) :
    ((after setup (declared now rows ++ h)).session.read k).map Entry.tags =
        ((after setup h).session.read k).map Entry.tags ∧
      ∀ moment, k ∈ (after setup (declared now rows ++ h)).session.staleKeys moment ↔
        k ∈ (after setup h).session.staleKeys moment ∨ ∃ e,
          (after setup h).session.read k = some e ∧ setup.cascade.Hits rows.flatten e.tags := by
  induction rows with
  | nil => exact ⟨rfl, by simp [declared, Cascade.Hits]⟩
  | cons tags rows ih =>
      obtain ⟨htags, hstale⟩ := ih
      obtain ⟨hsetup, htidy, hknown⟩ := tidy_after hnamed (declared now rows ++ h)
      have hindexed := indexed_after hnamed (declared now rows ++ h)
      have hsession : (after setup (declared now (tags :: rows) ++ h)).session =
          ((after setup (declared now rows ++ h)).session.invalidate tags).2.takeErrands.2 := rfl
      rw [hsession, Session.read_takeErrands, Session.staleKeys_takeErrands]
      -- What the next declaration hits is told by the tags, and these the others have left.
      have hhits : k ∈ ((after setup (declared now rows ++ h)).session.invalidate tags).1 ↔
          ∃ e, (after setup h).session.read k = some e ∧ setup.cascade.Hits tags e.tags := by
        rw [Session.mem_hits_iff hindexed htidy.tagging, hsetup,
          Session.exists_tags_congr htags]
      constructor
      · rw [Session.tags_invalidate hknown tags k, htags]
      · intro moment
        have hadds := Session.mem_staleKeys_invalidate hknown hindexed htidy.tagging tags moment k
        rw [hstale moment, hhits] at hadds
        refine hadds.trans ?_
        simp only [List.flatten_cons, Cascade.hits_append, and_or_left, exists_or, or_assoc]
        exact or_congr_right or_comm

/-- **Declarations are exact and order-free.**  In every situation the tagging lists the entries
that have tags, each with its own.  So a declaration hits exactly the entries that provide a tag
covered by one it leads to, makes these stale, and changes no data and no other entry.  And of
two rows of declarations made at one moment, of the same tags all in all, either leaves the same
keys stale. -/
theorem declarations_exact (hcatalog : setup.endpoints = Setup.catalog endpoints) (h : History) :
    (after setup h).session.ListsEntries ∧
    (∀ tags, (after setup h).session.HitsExactly tags) ∧
    ∀ (now : Nat) (rows rows' : List (List Tag)), (∀ t, t ∈ rows.flatten ↔ t ∈ rows'.flatten) →
      ∀ k, k ∈ (after setup (declared now rows ++ h)).session.staleKeys now ↔
        k ∈ (after setup (declared now rows' ++ h)).session.staleKeys now := by
  have hnamed := Setup.wellNamed_of_catalog hcatalog
  obtain ⟨hsetup, htidy, hknown⟩ := tidy_after hnamed h
  have hindexed := indexed_after hnamed h
  refine ⟨hindexed.listsEntries htidy.tagging, fun tags => ?_, ?_⟩
  · exact
      { hits := fun k => Session.mem_hits_iff hindexed htidy.tagging
        stale := Session.mem_staleKeys_invalidate hknown hindexed htidy.tagging tags
        others := fun k => (Session.read_invalidate hknown tags k).2
        data := (Session.shows_invalidate _ tags).data }
  · intro now rows rows' hsame k
    rw [(mem_staleKeys_declared hnamed now rows h k).2,
      (mem_staleKeys_declared hnamed now rows' h k).2]
    simp only [Cascade.hits_congr hsame]

/-- A client of two endpoints, where lessons make classes stale. -/
def classes : Setup where
  endpoints := Setup.catalog
    [⟨"class", fun _ => ⟨.get, "/class", [], none⟩, fun _ _ => [.ofId "Class" "1"], none, true⟩,
      ⟨"lesson", fun _ => ⟨.get, "/lesson", [], none⟩, fun _ _ => [.ofId "Lesson" "2"], none, true⟩]
  cascade := .ofList [(.ofKind "Lesson", [.ofKind "Class"])]
  options := .standard
  background := true

/-- Both have been fetched. -/
def fetched : History :=
  [(1, .land 1 (.ok .null)), (1, .land 0 (.ok .null)), (0, .query "lesson" .null),
    (0, .query "class" .null)]

/-- A lesson makes both stale, and a class only itself. -/
theorem declarations_exact_classes :
    (((after classes fetched).session.invalidate [.ofId "Lesson" "2"]).1.toList =
        [.ofCall "class" .null, .ofCall "lesson" .null] ∧
      ((after classes fetched).session.invalidate [.ofKind "Class"]).1.toList =
        [.ofCall "class" .null]) ∧
    (after classes fetched).session.ListsEntries ∧
    (∀ tags, (after classes fetched).session.HitsExactly tags) ∧
    ∀ (now : Nat) (rows rows' : List (List Tag)), (∀ t, t ∈ rows.flatten ↔ t ∈ rows'.flatten) →
      ∀ k, k ∈ (after classes (declared now rows ++ fetched)).session.staleKeys now ↔
        k ∈ (after classes (declared now rows' ++ fetched)).session.staleKeys now := by
  constructor
  · decide +kernel
  · exact declarations_exact rfl fetched

end Situation

end QueryCache
