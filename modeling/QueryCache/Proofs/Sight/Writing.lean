import QueryCache.Proofs.Sight.Watching
/-!
# Writes seen from one key

Edits show other data and no more.  A declaration strikes the entries hit, then fetches again
those that are watched and idle, one after the other.  From one key the fetching of the others
is no more than flight numbers counted up, so what is seen is one strike, or one strike and one
departure.
-/

namespace QueryCache.Session

variable {s s' : Session} {k k' : Key} {landed : Nat → Option Fetch} {hit stored : Option Nat}

/-! ## Edits -/

/-- Overlays are not seen from a key. -/
theorem leads_overlays (s : Session) (o : Overlays) : s.Leads { s with overlays := o } :=
  .of_same rfl rfl rfl rfl rfl rfl

/-- Displaying a version leads on. -/
theorem leads_display (s : Session) (k : Key) (data : Version) : s.Leads (s.display k data) := by
  unfold display alter Cache.write
  cases hread : s.cache.read k with
  | none => exact .of_cell (later_cache s _) fun _ _ _ _ => rfl
  | some e => exact leads_turn hread (s.cache.read_put k _) rfl Or.inl

/-- Laying edits leads on. -/
theorem leads_layEdits (s : Session) (write : Nat) (edits : List SpeculativeEdit) :
    s.Leads (s.layEdits write edits).2 := by
  induction edits generalizing s with
  | nil => exact .refl s
  | cons e rest ih =>
      unfold layEdits
      cases s.dataAt e.target with
      | none => exact ih s
      | some shown =>
          exact (leads_overlays s _).trans ((leads_display _ e.target _).trans (ih _))

/-- Settling edits leads on. -/
theorem leads_settleEdits (settle : Overlays → Key → Option Version × Overlays) (keys : List Key)
    (s : Session) : s.Leads (s.settleEdits settle keys).2 := by
  induction keys generalizing s with
  | nil => exact .refl s
  | cons k rest ih =>
      unfold settleEdits
      cases hsettle : settle s.overlays k with
      | mk shown overlays =>
          cases shown with
          | none => exact (leads_overlays s overlays).trans (ih _)
          | some data =>
              exact (leads_overlays s overlays).trans ((leads_display _ k data).trans (ih _))

/-- Sending updates leads on. -/
theorem leads_publishes (keys : List Key) (s : Session) : s.Leads (keys.foldl publish s) := by
  induction keys generalizing s with
  | nil => exact .refl s
  | cons k rest ih => exact (leads_publish s k).trans (ih _)

/-- A write that begins leads on. -/
theorem leads_beginWrite (s : Session) (edits : List SpeculativeEdit) :
    s.Leads (s.beginWrite edits).2 := by
  have hcounted : s.Leads { s with nextWrite := s.nextWrite + 1 } :=
    .of_same rfl rfl rfl rfl rfl rfl
  exact hcounted.trans ((leads_layEdits _ s.nextWrite edits).trans (leads_publishes _ _))

/-- A write that is taken back leads on. -/
theorem leads_withdraw (s : Session) (w : Write) : s.Leads (s.withdraw w) :=
  (leads_settleEdits _ w.targets s).trans (leads_publishes _ _)

/-- A write that is settled leads on. -/
theorem leads_settleWrite (s : Session) (w : Write) (response : Json) :
    s.Leads (s.settleWrite w response) :=
  (leads_settleEdits _ w.targets s).trans (leads_publishes _ _)

/-- A write that has failed leads on. -/
theorem leads_giveUp (s : Session) (w : Write) (failure : Failure) :
    s.Leads (s.giveUp w failure) := by
  refine (leads_withdraw s w).trans ?_
  exact .of_same rfl rfl rfl rfl rfl rfl

/-! ## Declarations -/

/-- The keys hit that have an entry. -/
def present (s : Session) (hits : KeySet) : List Key := hits.toList.filter s.cache.contains

/-- The session with the entries of these keys struck. -/
def struck (s : Session) (keys : List Key) : Session :=
  keys.foldl (fun s k => s.alter k Entry.invalidate) s

/-- The keys that are watched and not being fetched. -/
def idle (s : Session) (keys : List Key) : List Key :=
  keys.filter fun k => ((s.read k).map fun e => e.isWatched && !e.isFetching).getD false

/-- A declaration hits the keys of the tags that those declared lead to. -/
theorem hits_invalidate (s : Session) (tags : List Tag) :
    (s.invalidate tags).1 = s.tagging.keysFor (s.setup.cascade.reach tags) := by
  simp only [invalidate]

/-- A declaration strikes first, tells then, and fetches last. -/
theorem invalidate_eq (s : Session) (tags : List Tag) (l : List Key)
    (hl : l = s.present (s.tagging.keysFor (s.setup.cascade.reach tags))) :
    (s.invalidate tags).2 =
      ((s.struck l).idle l).foldl refetch (l.foldl publish (s.struck l)) := by
  rw [hl]
  simp only [invalidate, struck, idle, present]

/-- Some entries are declared stale, and no entry comes or goes. -/
structure Strikes (hits : KeySet) (s s' : Session) : Prop where
  later : s.Later s'
  kept : ∀ k, (s.read k).isSome → (s'.read k).isSome
  route : ∀ k landed hit stored, Relation.ReflTransGen (Cell.Step s.setup k)
    (s.cell k landed hit stored)
    (s'.cell k landed
      (if k ∈ hits ∧ (s'.read k).isSome then some s.flights.nextFlight else hit) stored)

/-- Striking some entries, each once. -/
theorem cell_strikes {l : List Key} (hnodup : l.Nodup) (s : Session) (k : Key)
    (landed : Nat → Option Fetch) (hit stored : Option Nat) :
    (l.foldl (fun s k => s.alter k Entry.invalidate) s).cell k landed hit stored =
      { s.cell k landed hit stored with
        entry := if k ∈ l then (s.read k).map Entry.invalidate else s.read k } := by
  induction l generalizing s with
  | nil => rfl
  | cons k' l ih =>
      obtain ⟨hnew, hnodup⟩ := List.nodup_cons.mp hnodup
      have hread : (s.alter k' Entry.invalidate).read k =
          if k = k' then (s.read k').map Entry.invalidate else s.read k :=
        s.cache.read_write k' Entry.invalidate k
      rw [List.foldl_cons, ih hnodup, cell_alter, hread]
      by_cases hk : k = k'
      · subst hk
        simp [hnew]
      · simp [hk]

/-- Strikes belong to the same generation. -/
theorem later_strikes (l : List Key) (s : Session) :
    s.Later (l.foldl (fun s k => s.alter k Entry.invalidate) s) := by
  induction l generalizing s with
  | nil => exact .refl s
  | cons k l ih => exact (later_cache s (s.cache.write k Entry.invalidate).2).trans (ih _)

/-- Fetching other keys again is seen as flight numbers counted up. -/
theorem cell_refetches_ne (l : List Key) (hknown : s.Known) (hk : k ∉ l) :
    ∃ n, s.flights.nextFlight ≤ n ∧ ∀ landed hit stored,
      (l.foldl refetch s).cell k landed hit stored =
        { s.cell k landed hit stored with next := n } := by
  induction l generalizing s with
  | nil => exact ⟨_, Nat.le_refl _, fun _ _ _ => rfl⟩
  | cons k' l ih =>
      simp only [List.mem_cons, not_or] at hk
      obtain ⟨n, hn, hcell⟩ := cell_refetch_ne hknown hk.1
      obtain ⟨n', hn', hcells⟩ := ih (hknown.leads (leads_refetch hknown k')) hk.2
      have hnext : (s.refetch k').flights.nextFlight = n :=
        congrArg Cell.next (hcell (fun _ => none) none none)
      refine ⟨n', by omega, fun landed hit stored => ?_⟩
      rw [List.foldl_cons, hcells, hcell]

/-- Fetching some keys again, each once: one of them has a window already, or one flight departs
for it, between those of the keys before and after. -/
theorem cell_refetches {l : List Key} (hnodup : l.Nodup) (hknown : s.Known) (hk : k ∈ l)
    {e : Entry} (hread : s.read k = some e) :
    ((s.flights.window? k).isSome ∧ ∃ n, s.flights.nextFlight ≤ n ∧ ∀ landed hit stored,
      (l.foldl refetch s).cell k landed hit stored =
        { s.cell k landed hit stored with next := n }) ∨
    ∃ n n' f, s.flights.nextFlight ≤ n ∧ n + 1 ≤ n' ∧ f.epoch = e.epoch ∧
      s.setup.Serves k f.endpoint f.args ∧
      (f.endpoint.shared = true → s.flights.window? k = none) ∧ ∀ landed hit stored,
        (l.foldl refetch s).cell k landed hit stored =
          { ({ s.cell k landed hit stored with next := n } : Cell).depart e f with
            next := n' } := by
  induction l generalizing s with
  | nil => cases hk
  | cons k' l ih =>
      obtain ⟨hnew, hnodup⟩ := List.nodup_cons.mp hnodup
      have hknown' := hknown.leads (leads_refetch hknown k')
      by_cases hhead : k = k'
      · subst hhead
        obtain ⟨n', hn', hcells⟩ := cell_refetches_ne l hknown' hnew
        simp only [List.foldl_cons]
        rcases refetch_cases hknown hread with
          ⟨hjoin, hwindow⟩ | ⟨endpoint, hserves, hopen, hdepart⟩
        · rw [hjoin] at hn' hcells ⊢
          exact Or.inl ⟨hwindow, n', hn', hcells⟩
        · right
          rw [hdepart] at hn' hcells ⊢
          have hnext : (s.depart k endpoint e.args e.epoch).2.flights.nextFlight =
              s.flights.nextFlight + 1 :=
            congrArg Cell.next (cell_depart hread endpoint e.args e.epoch (fun _ => none) none none)
          refine ⟨s.flights.nextFlight, n', ⟨k, endpoint, e.args, e.epoch, s.generation⟩,
            Nat.le_refl _, by omega, rfl, hserves, hopen, fun landed hit stored => ?_⟩
          rw [hcells, cell_depart hread]
          rfl
      · have hk' : k ∈ l := (List.mem_cons.mp hk).resolve_left hhead
        obtain ⟨m, hm, hcell⟩ := cell_refetch_ne hknown hhead
        have hsame := hcell (fun _ => none) none none
        have hnext : (s.refetch k').flights.nextFlight = m := congrArg Cell.next hsame
        have hentry : (s.refetch k').read k = s.read k := congrArg Cell.entry hsame
        have hwindow : (s.refetch k').flights.window? k = s.flights.window? k :=
          congrArg Cell.window hsame
        have hsetup := (leads_refetch hknown k').later.setup
        have hrest := ih hnodup hknown' hk' (hentry.trans hread)
        rw [hnext, hwindow, hsetup] at hrest
        simp only [List.foldl_cons]
        rcases hrest with
          ⟨hjoin, n, hn, hcells⟩ | ⟨n, n', f, hn, hn', hepoch, hserves, hopen, hcells⟩
        · refine Or.inl ⟨hjoin, n, by omega, fun landed hit stored => ?_⟩
          rw [hcells, hcell]
        · refine Or.inr ⟨n, n', f, by omega, hn', hepoch, hserves, hopen,
            fun landed hit stored => ?_⟩
          rw [hcells, hcell]

/-- Fetching many again leads on. -/
theorem leads_refetches (l : List Key) (hknown : s.Known) : s.Leads (l.foldl refetch s) := by
  induction l generalizing s with
  | nil => exact .refl s
  | cons k l ih =>
      have hhead := leads_refetch hknown k
      exact hhead.trans (ih (hknown.leads hhead))

/-- Updates are not seen from a key. -/
theorem cell_publishes (l : List Key) (s : Session) (k : Key) (landed : Nat → Option Fetch)
    (hit stored : Option Nat) :
    (l.foldl publish s).cell k landed hit stored = s.cell k landed hit stored := by
  induction l generalizing s with
  | nil => rfl
  | cons k' l ih => exact ih (s.publish k')

theorem nodup_present (s : Session) (hits : KeySet) : (s.present hits).Nodup := by
  have hdistinct := Std.ExtTreeSet.distinct_toList (t := hits)
  refine List.Pairwise.filter _ (hdistinct.imp ?_)
  intro k _ hne heq
  subst heq
  exact hne Std.compare_self

/-- The present keys are those hit that have an entry. -/
theorem mem_present (s : Session) (hits : KeySet) (k : Key) :
    k ∈ s.present hits ↔ k ∈ hits ∧ (s.read k).isSome := by
  have hcontains := s.cache.contains_eq k
  simp only [present, List.mem_filter, Std.ExtTreeSet.mem_toList, hcontains]
  rfl

/-- Entries that are struck are still those of the same calls. -/
theorem Known.struck (hknown : s.Known) {l : List Key} (hnodup : l.Nodup) :
    (s.struck l).Known := by
  intro k landed hit stored
  rw [Session.struck, cell_strikes hnodup, (later_strikes l s).setup]
  refine (hknown k landed hit stored).of_same rfl rfl rfl ?_
  intro e' he'
  simp only at he'
  split at he'
  · obtain ⟨e, hread, rfl⟩ := Option.map_eq_some_iff.mp he'
    exact ⟨e, hread, rfl, rfl⟩
  · exact ⟨e', he', rfl, rfl⟩

/-- The entries that are hit have tags on record. -/
theorem tags_of_hit (hsound : s.tagging.Sound) {tags : List Tag}
    (hk : k ∈ (s.invalidate tags).1) : s.tagging.tagsOf k ≠ ∅ := by
  rw [hits_invalidate] at hk
  obtain ⟨t, -, p, hp, -⟩ := (Tagging.mem_keysFor hsound _ k).mp hk
  intro hnone
  rw [hnone] at hp
  exact Std.ExtTreeSet.not_mem_empty hp

/-- The idle keys are those of entries that are watched and not being fetched. -/
theorem mem_idle (l : List Key) (k : Key) :
    k ∈ s.idle l ↔ k ∈ l ∧ ∃ e, s.read k = some e ∧ e.isWatched = true ∧ e.stage ≠ .fetching := by
  cases hread : s.read k <;> simp [idle, hread, Entry.isFetching]

/-- The entries of some keys have been struck, and all else is as it was. -/
structure HasStruck (l : List Key) (s told : Session) : Prop where
  later : s.Later told
  known : told.Known
  cell : ∀ k landed hit stored, told.cell k landed hit stored =
    { s.cell k landed hit stored with
      entry := if k ∈ l then (s.read k).map Entry.invalidate else s.read k }

section HasStruck

variable {told : Session} {l due : List Key} {hits : KeySet} {e : Entry}

/-- Telling of entries that have been struck changes nothing. -/
theorem hasStruck_publishes (hknown : s.Known) (hnodup : l.Nodup) :
    HasStruck l s (l.foldl publish (s.struck l)) where
  later := (later_strikes l s).trans (leads_publishes l _).later
  known := (hknown.struck hnodup).leads (leads_publishes l _)
  cell := by
    intro k landed hit stored
    exact (cell_publishes l _ k landed hit stored).trans (cell_strikes hnodup s k landed hit stored)

/-- An entry is struck if its key is listed. -/
theorem HasStruck.read (h : HasStruck l s told) (k : Key) :
    told.read k = if k ∈ l then (s.read k).map Entry.invalidate else s.read k :=
  congrArg Cell.entry (h.cell k (fun _ => none) none none)

theorem HasStruck.next (h : HasStruck l s told) :
    told.flights.nextFlight = s.flights.nextFlight :=
  congrArg Cell.next (h.cell ⟨""⟩ (fun _ => none) none none)

theorem HasStruck.window (h : HasStruck l s told) (k : Key) :
    told.flights.window? k = s.flights.window? k :=
  congrArg Cell.window (h.cell k (fun _ => none) none none)

/-- No entry is lost when some are struck. -/
theorem HasStruck.kept (h : HasStruck l s told) (hk : (s.read k).isSome) :
    (told.read k).isSome := by
  rw [h.read]
  split
  · simpa using hk
  · exact hk

/-- The entry of a listed key has been struck. -/
theorem HasStruck.read_of_mem (h : HasStruck l s told) (hk : k ∈ l) (hread : s.read k = some e) :
    told.read k = some e.invalidate := by
  rw [h.read, if_pos hk, hread]
  rfl

/-- From a listed key one sees the entry struck. -/
theorem HasStruck.cell_of_mem (h : HasStruck l s told) (hk : k ∈ l) (hread : s.read k = some e)
    (landed : Nat → Option Fetch) (hit stored : Option Nat) :
    told.cell k landed hit stored =
      { s.cell k landed hit stored with entry := some e.invalidate } := by
  rw [h.cell, if_pos hk, hread]
  rfl

/-- From a key that is not listed nothing is seen to have happened. -/
theorem HasStruck.cell_of_not_mem (h : HasStruck l s told) (hk : k ∉ l)
    (landed : Nat → Option Fetch) (hit stored : Option Nat) :
    told.cell k landed hit stored = s.cell k landed hit stored := by
  rw [h.cell, if_neg hk]
  rfl

/-- An entry that is struck and is one of those fetched again. -/
theorem HasStruck.route_due (h : HasStruck l s told) (hnodup : due.Nodup) (hdue : k ∈ due)
    (hk : k ∈ l) (hread : s.read k = some e) (htags : s.tagging.tagsOf k ≠ ∅)
    (landed : Nat → Option Fetch) (hit stored : Option Nat) :
    Relation.ReflTransGen (Cell.Step s.setup k) (s.cell k landed hit stored)
      ((due.foldl refetch told).cell k landed (some s.flights.nextFlight) stored) := by
  rcases cell_refetches hnodup h.known hdue (h.read_of_mem hk hread) with
    ⟨hopen, n, hn, hcells⟩ | ⟨n, n', f, hn, hn', hepoch, hserves, hopen, hcells⟩
  · rw [h.window] at hopen
    rw [h.next] at hn
    rw [hcells, h.cell_of_mem hk hread]
    exact .tail (.single (.strike hread htags fun _ => Or.inr hopen)) (.drift hn)
  · rw [h.later.setup] at hserves
    rw [h.window] at hopen
    rw [h.next] at hn
    rw [hcells, h.cell_of_mem hk hread]
    exact .tail (.single (.strikeAndDepart hread htags hn hepoch hserves hopen)) (.drift hn')

/-- An entry that is struck and not fetched again, as nobody watches it or a flight brings it. -/
theorem HasStruck.route_cared (h : HasStruck l s told) (hdue : k ∉ due) (hk : k ∈ l)
    (hread : s.read k = some e) (htags : s.tagging.tagsOf k ≠ ∅)
    (hcared : e.isWatched = true → e.stage = .fetching)
    (landed : Nat → Option Fetch) (hit stored : Option Nat) :
    Relation.ReflTransGen (Cell.Step s.setup k) (s.cell k landed hit stored)
      ((due.foldl refetch told).cell k landed (some s.flights.nextFlight) stored) := by
  obtain ⟨n, hn, hcells⟩ := cell_refetches_ne due h.known hdue
  rw [h.next] at hn
  rw [hcells, h.cell_of_mem hk hread]
  exact .tail (.single (.strike hread htags fun hwatched => Or.inl (hcared hwatched))) (.drift hn)

/-- Once some entries are struck, fetching the idle ones completes the declaration. -/
theorem HasStruck.strikes (h : HasStruck l s told) (hnodup : due.Nodup)
    (hdue : ∀ k, k ∈ due ↔ k ∈ l ∧
      ∃ e, told.read k = some e ∧ e.isWatched = true ∧ e.stage ≠ .fetching)
    (hmem : ∀ k, k ∈ l ↔ k ∈ hits ∧ (s.read k).isSome)
    (htags : ∀ k ∈ hits, s.tagging.tagsOf k ≠ ∅) :
    Strikes hits s (due.foldl refetch told) := by
  have hfetched : told.Leads (due.foldl refetch told) := leads_refetches due h.known
  have hkept : ∀ k, (s.read k).isSome → ((due.foldl refetch told).read k).isSome :=
    fun k hk => hfetched.kept k (h.kept hk)
  refine ⟨h.later.trans hfetched.later, hkept, ?_⟩
  intro k landed hit stored
  by_cases hk : k ∈ l
  · obtain ⟨hhit, hpresent⟩ := (hmem k).mp hk
    obtain ⟨e, hread⟩ := Option.isSome_iff_exists.mp hpresent
    rw [if_pos ⟨hhit, hkept k hpresent⟩]
    by_cases hidle : k ∈ due
    · exact h.route_due hnodup hidle hk hread (htags k hhit) landed hit stored
    · refine h.route_cared hidle hk hread (htags k hhit) (fun hwatched => ?_) landed hit stored
      refine Decidable.byContradiction fun hstage => hidle ((hdue k).mpr ⟨hk, ?_⟩)
      exact ⟨e.invalidate, h.read_of_mem hk hread, hwatched, hstage⟩
  · have hother : k ∉ due := fun hidle => hk ((hdue k).mp hidle).1
    obtain ⟨n, hn, hcells⟩ := cell_refetches_ne due h.known hother
    have hmiss : ¬ (k ∈ hits ∧ ((due.foldl refetch told).read k).isSome) := by
      intro hpresent
      obtain ⟨hhit, hsome⟩ := hpresent
      have hentry : (due.foldl refetch told).read k = told.read k :=
        congrArg Cell.entry (hcells landed hit stored)
      rw [hentry, h.read, if_neg hk] at hsome
      exact hk ((hmem k).mpr ⟨hhit, hsome⟩)
    rw [h.next] at hn
    rw [if_neg hmiss, hcells, h.cell_of_not_mem hk]
    exact .single (.drift hn)

end HasStruck

/-- **A declaration seen from one key.**  An entry that is hit is struck once, and fetched again
at once if it is watched and nobody fetches it. -/
theorem strikes_invalidate (hknown : s.Known) (hsound : s.tagging.Sound) (tags : List Tag) :
    Strikes (s.invalidate tags).1 s (s.invalidate tags).2 := by
  obtain ⟨l, hl⟩ : ∃ l, l = s.present (s.tagging.keysFor (s.setup.cascade.reach tags)) := ⟨_, rfl⟩
  have hnodup : l.Nodup := hl ▸ nodup_present s _
  rw [invalidate_eq s tags l hl]
  refine (hasStruck_publishes hknown hnodup).strikes (hnodup.filter _) ?_ ?_ ?_
  · intro k
    have hread : (l.foldl publish (s.struck l)).read k = (s.struck l).read k :=
      congrArg Cell.entry (cell_publishes l _ k (fun _ => none) none none)
    rw [hread]
    exact mem_idle l k
  · intro k
    rw [hl, hits_invalidate]
    exact mem_present s _ k
  · exact fun k => tags_of_hit hsound

/-! ## Confirmations -/

section Settling

variable {α : Type} {part : Session → α}

/-- What holds neither overlays nor entries is the same once edits are settled. -/
theorem same_settleEdits (hoverlays : ∀ s o, part { s with overlays := o } = part s)
    (hdisplay : ∀ s k data, part (s.display k data) = part s)
    (settle : Overlays → Key → Option Version × Overlays) (keys : List Key) (s : Session) :
    part (s.settleEdits settle keys).2 = part s := by
  induction keys generalizing s with
  | nil => rfl
  | cons k rest ih =>
      unfold settleEdits
      cases settle s.overlays k with
      | mk shown overlays =>
          cases shown with
          | none => exact (ih _).trans (hoverlays s overlays)
          | some data =>
              exact (ih _).trans ((hdisplay _ k data).trans (hoverlays s overlays))

/-- And if it holds no updates either, it is the same once a write is confirmed. -/
theorem same_settleWrite (hoverlays : ∀ s o, part { s with overlays := o } = part s)
    (hdisplay : ∀ s k data, part (s.display k data) = part s)
    (hpublish : ∀ s k, part (publish s k) = part s) (s : Session) (w : Write) (response : Json) :
    part (s.settleWrite w response) = part s := by
  have hpublishes : ∀ (l : List Key) (s : Session), part (l.foldl publish s) = part s := by
    intro l
    induction l with
    | nil => intro s; rfl
    | cons k l ih => intro s; exact (ih (s.publish k)).trans (hpublish s k)
  exact (hpublishes _ _).trans (same_settleEdits hoverlays hdisplay _ w.targets s)

end Settling

theorem flights_settleWrite (s : Session) (w : Write) (response : Json) :
    (s.settleWrite w response).flights = s.flights :=
  same_settleWrite (fun _ _ => rfl) (fun _ _ _ => rfl) (fun _ _ => rfl) s w response

theorem tagging_settleWrite (s : Session) (w : Write) (response : Json) :
    (s.settleWrite w response).tagging = s.tagging :=
  same_settleWrite (fun _ _ => rfl) (fun _ _ _ => rfl) (fun _ _ => rfl) s w response

/-- A confirmation strikes what its declaration hits, if it declares anything. -/
theorem strikes_confirm (hknown : s.Known) (hsound : s.tagging.Sound) (w : Write) (m : Mutation)
    (args response : Json) :
    Strikes (if (m.stales args response).isEmpty then ∅
        else ((s.settleWrite w response).invalidate (m.stales args response)).1)
      s (s.confirm w m args response) := by
  have hsettled := leads_settleWrite s w response
  have hflights := flights_settleWrite s w response
  have hdeclared : Strikes (if (m.stales args response).isEmpty then ∅
      else ((s.settleWrite w response).invalidate (m.stales args response)).1) s
      (if (m.stales args response).isEmpty then s.settleWrite w response
        else ((s.settleWrite w response).invalidate (m.stales args response)).2) := by
    by_cases hempty : (m.stales args response).isEmpty
    · rw [if_pos hempty, if_pos hempty]
      refine ⟨hsettled.later, hsettled.kept, fun k landed hit stored => ?_⟩
      rw [if_neg fun h => Std.ExtTreeSet.not_mem_empty h.1]
      exact hsettled.route k landed hit stored
    · rw [if_neg hempty, if_neg hempty]
      have hstrikes := strikes_invalidate (hknown.leads hsettled) (hsettled.later.tagging hsound)
        (m.stales args response)
      refine ⟨hsettled.later.trans hstrikes.later, fun k hk =>
        hstrikes.kept k (hsettled.kept k hk), fun k landed hit stored => ?_⟩
      have hroute := hstrikes.route k landed hit stored
      rw [hsettled.later.setup, hflights] at hroute
      exact (hsettled.route k landed hit stored).trans hroute
  unfold confirm
  cases m.announcement with
  | none => exact hdeclared
  | some message =>
      exact ⟨hdeclared.later.trans (.of_same rfl rfl rfl rfl rfl),
        hdeclared.kept, hdeclared.route⟩

end QueryCache.Session
