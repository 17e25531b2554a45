import QueryCache.Proofs.Sight.Fetching
/-!
# Coming and going seen from one key

Whoever subscribes finds the entry served, or has it fetched in the same step; so from the key
the two are seen in the other order, first the flight departing and then the watcher coming
(`leads_watch`).  Whoever only asks need not be served, as nobody is left watching.

What is dropped was watched by nobody, and loses its tags with its data (`Loses`).
-/

namespace QueryCache

namespace Entry

/-- What is not stale has been fetched, and has not been declared stale since. -/
theorem fetched_of_not_stale {e : Entry} {now maxAge : Nat} (h : e.isStale now maxAge = false) :
    e.fetchedAt.isSome ∧ e.invalidated = false := by
  unfold isStale at h
  rw [Bool.or_eq_false_iff] at h
  cases hat : e.fetchedAt with
  | none => simp [hat] at h
  | some since => exact ⟨rfl, h.1⟩

/-- An entry watched by somebody when another has left was watched before. -/
theorem isWatched_of_leftBy (e : Entry) {subscriber now : Nat}
    (h : (e.leftBy subscriber now).isWatched = true) : e.isWatched = true := by
  cases hempty : e.subscribers.isEmpty with
  | false => simp [isWatched, hempty]
  | true =>
      have hnone : e.subscribers = ∅ := Std.ExtTreeSet.isEmpty_iff.mp hempty
      simp [isWatched, leftBy, hnone] at h

end Entry

namespace Session

variable {s s' : Session} {k k' : Key} {landed : Nat → Option Fetch} {hit stored : Option Nat}

/-- With another cache the session shows other entries, and all else as before. -/
theorem later_cache (s : Session) (cache : Cache) : s.Later { s with cache := cache } :=
  .of_same rfl rfl rfl rfl rfl

section Turn

variable {cache : Cache} {e e' : Entry}

/-- With one entry exchanged, the other keys show what they showed. -/
theorem cell_cache (hcache : ∀ k', cache.read k' = if k' = k then some e' else s.read k')
    (k' : Key) : ({ s with cache := cache } : Session).cell k' landed hit stored =
      { s.cell k' landed hit stored with entry := if k' = k then some e' else s.read k' } :=
  congrArg (fun e => { s.cell k' landed hit stored with entry := e }) (hcache k')

/-- A cache that differs at one key looks the same from the others. -/
theorem cell_cache_ne (hcache : ∀ k', cache.read k' = if k' = k then some e' else s.read k')
    (h : k' ≠ k) : ({ s with cache := cache } : Session).cell k' landed hit stored =
      s.cell k' landed hit stored := by
  rw [cell_cache hcache, if_neg h]
  rfl

/-- No entry is lost by putting one. -/
theorem kept_cache (hcache : ∀ k', cache.read k' = if k' = k then some e' else s.read k')
    (k' : Key) (hk' : (s.read k').isSome) :
    (({ s with cache := cache } : Session).read k').isSome := by
  have hread : ({ s with cache := cache } : Session).read k' = cache.read k' := rfl
  rw [hread, hcache]
  split
  · rfl
  · exact hk'

/-- One entry is turned, all others stay. -/
theorem leads_turn (hread : s.read k = some e)
    (hcache : ∀ k', cache.read k' = if k' = k then some e' else s.read k') (halike : e.Alike e')
    (hwatch : e'.isWatched = true → e.isWatched = true ∨ (s.setup.Shares k →
      (s.flights.window? k).isSome ∨ e.stage = .fetching ∨
        (e.fetchedAt.isSome ∧ e.invalidated = false))) :
    s.Leads { s with cache := cache } where
  later := later_cache s cache
  kept := kept_cache hcache
  route := by
    intro k' landed hit stored
    by_cases h : k' = k
    · subst h
      rw [cell_cache hcache, if_pos rfl]
      exact .single (.turn hread halike hwatch)
    · rw [cell_cache_ne hcache h]

/-- What is known of every key stays so when an entry takes a turn. -/
theorem Known.turn (hknown : s.Known) (hread : s.read k = some e)
    (hcache : ∀ k', cache.read k' = if k' = k then some e' else s.read k')
    (halike : e.Alike e') : Known { s with cache := cache } := by
  intro k' landed hit stored
  by_cases h : k' = k
  · subst h
    rw [cell_cache hcache, if_pos rfl]
    refine (hknown k' landed hit stored).of_same rfl rfl rfl ?_
    intro _ heq
    cases heq
    exact ⟨e, hread, by rw [halike], by rw [halike]⟩
  · rw [cell_cache_ne hcache h]
    exact hknown k' landed hit stored

/-- Whoever begins to watch an entry that is not served has it fetched; seen from the key, the
flight departs first. -/
theorem leads_watch (hknown : s.Known) (hread : s.read k = some e)
    (hcache : ∀ k', cache.read k' = if k' = k then some e' else s.read k')
    (halike : e.Alike e') : s.Leads (({ s with cache := cache } : Session).refetch k) := by
  have hknown' := hknown.turn hread hcache halike
  have hread' : ({ s with cache := cache } : Session).read k = some e' := by
    have hself := hcache k
    rwa [if_pos rfl] at hself
  rcases refetch_cases hknown' hread' with ⟨hjoin, hwindow⟩ | ⟨endpoint, hserves, hopen, hdepart⟩
  · rw [hjoin]
    exact leads_turn hread hcache halike fun _ => Or.inr fun _ => Or.inl hwindow
  · rw [hdepart]
    have hleads := leads_depart hknown' hread' hserves hopen
    refine ⟨(later_cache s cache).trans hleads.later, ?_, ?_⟩
    · intro k' hk'
      exact hleads.kept k' (kept_cache hcache k' hk')
    · intro k' landed hit stored
      by_cases h : k' = k
      · subst h
        rw [cell_depart hread', cell_cache hcache, if_pos rfl]
        have hepoch : e'.epoch = e.epoch := by rw [halike]
        let f : Fetch := ⟨k', endpoint, e'.args, e'.epoch, s.generation⟩
        have hdeparted : Cell.Step s.setup k' (s.cell k' landed hit stored)
            ((s.cell k' landed hit stored).depart e f) := .depart hread hepoch hserves hopen
        have halike' : e.beginFetch.Alike e'.beginFetch := by
          rw [halike]
          rfl
        refine .tail (.single hdeparted) (.turn rfl halike' ?_)
        refine fun _ => Or.inr fun hshares => Or.inl ?_
        have hshared : f.endpoint.shared = true := hshares _ _ hserves
        simp [Cell.depart, hshared]
      · rw [cell_depart_ne hknown' h, cell_cache_ne hcache h]
        exact .single (.drift (Nat.le_succ _))

end Turn

/-- The entry of a call is there, or is made. -/
theorem leads_ensure {endpoint : Endpoint}
    (hlists : s.setup.Lists endpoint.name endpoint) (args : Json) (now : Nat) :
    s.Leads { s with cache := s.cache.ensure (endpoint.keyOf args) endpoint.name args now } := by
  have hcache : ∀ k', (s.cache.ensure (endpoint.keyOf args) endpoint.name args now).read k' =
      if k' = endpoint.keyOf args then
        some (s.cache.entryFor (endpoint.keyOf args) endpoint.name args now)
      else s.read k' := s.cache.read_put _ _
  cases hread : s.read (endpoint.keyOf args) with
  | some e =>
      refine .of_cell (later_cache s _) ?_
      intro k' landed hit stored
      rw [cell_cache hcache]
      by_cases h : k' = endpoint.keyOf args
      · have hentry : s.cache.entryFor (endpoint.keyOf args) endpoint.name args now = e := by
          unfold Cache.entryFor
          rw [show s.cache.read (endpoint.keyOf args) = some e from hread]
          rfl
        rw [if_pos h, hentry, ← hread, ← h]
        rfl
      · rw [if_neg h]
        rfl
  | none =>
      refine ⟨later_cache s _, kept_cache hcache, ?_⟩
      intro k' landed hit stored
      by_cases h : k' = endpoint.keyOf args
      · have hentry : s.cache.entryFor (endpoint.keyOf args) endpoint.name args now =
            { Entry.fresh (endpoint.keyOf args) endpoint.name args with
              unusedSince := some now } := by
          unfold Cache.entryFor
          rw [show s.cache.read (endpoint.keyOf args) = none from hread]
          rfl
        rw [cell_cache hcache, if_pos h, hentry, h]
        exact .single (.make hread ⟨rfl, rfl, rfl, rfl, rfl⟩ rfl hlists rfl)
      · rw [cell_cache_ne hcache h]

theorem read_ask (s : Session) (e : Errand) (k : Key) : (s.ask e).read k = s.read k := by
  unfold ask
  split <;> rfl

/-- A query leads on. -/
theorem leads_query (hknown : s.Known) {endpoint : Endpoint}
    (hlists : s.setup.Lists endpoint.name endpoint) (now : Nat) (args : Json) :
    s.Leads (s.query now endpoint args).2 := by
  let k := endpoint.keyOf args
  let made := { s with cache := s.cache.ensure k endpoint.name args now }
  let asked := if s.cache.contains k then made else made.ask (.grace k)
  have hmade : s.Leads made := leads_ensure hlists args now
  have hasked : s.Leads asked := by
    refine hmade.trans ?_
    simp only [asked]
    split
    · exact .refl made
    · exact leads_ask made _
  have hread : asked.read k = some (s.cache.entryFor k endpoint.name args now) := by
    have hput : made.read k = some (s.cache.entryFor k endpoint.name args now) := by
      refine (s.cache.read_put k _ k).trans ?_
      rw [if_pos rfl]
    simp only [asked]
    split
    · exact hput
    · rw [read_ask, hput]
  have hserves : asked.setup.Serves k endpoint args := by
    rw [hasked.later.setup]
    exact ⟨⟨_, hlists⟩, rfl⟩
  have hlaunch := leads_launch (hknown.leads hasked) hread hserves
  unfold query
  simp only
  split
  · exact hasked
  · exact hasked.trans hlaunch

/-- Whoever comes to an entry and does not fetch it finds it fetched or being fetched. -/
theorem served_of_not_needsFetch {endpoint : Endpoint} {e : Entry} {now : Nat}
    (hshared : endpoint.shared = true) (h : ¬ s.needsFetch now endpoint e = true) :
    e.stage = .fetching ∨ (e.fetchedAt.isSome ∧ e.invalidated = false) := by
  by_cases hfetching : e.stage = .fetching
  · exact Or.inl hfetching
  · have hfresh : e.isStale now s.setup.options.keep = false := by
      simpa [needsFetch, hshared, Entry.isFetching, hfetching] using h
    exact Or.inr (Entry.fetched_of_not_stale hfresh)

/-- A subscription leads on. -/
theorem leads_subscribe (hknown : s.Known) {endpoint : Endpoint}
    (hlists : s.setup.Lists endpoint.name endpoint) (now : Nat) (args : Json) :
    s.Leads (s.subscribe now endpoint args).2 := by
  let k := endpoint.keyOf args
  let e := s.cache.entryFor k endpoint.name args now
  let watched := e.watchedBy s.cache.nextSubscriber
  let made := { s with cache := s.cache.ensure k endpoint.name args now }
  let joined := { s with cache := (s.cache.subscribe k endpoint.name args now).2 }
  let served := if joined.needsFetch now endpoint watched then joined.refetch k else joined
  have hmade : s.Leads made := leads_ensure hlists args now
  have hread : made.read k = some e := by
    refine (s.cache.read_put k _ k).trans ?_
    rw [if_pos rfl]
  have hcache : ∀ k', (s.cache.subscribe k endpoint.name args now).2.read k' =
      if k' = k then some watched else made.read k' := by
    intro k'
    have hjoined : (s.cache.subscribe k endpoint.name args now).2.read k' =
        if k' = k then some watched else s.read k' := s.cache.read_put k watched k'
    have hbefore : made.read k' = if k' = k then some e else s.read k' := s.cache.read_put k e k'
    rw [hjoined, hbefore]
    split <;> rfl
  have hserved : made.Leads served := by
    simp only [served]
    split
    · exact leads_watch (hknown.leads hmade) hread hcache rfl
    · rename_i hneeds
      refine leads_turn hread hcache rfl fun _ => Or.inr fun hshares => ?_
      have hshared := hshares endpoint args ⟨⟨_, hlists⟩, rfl⟩
      exact Or.inr (served_of_not_needsFetch hshared hneeds)
  have hread' : joined.read k = some watched := by
    have hself := hcache k
    rwa [if_pos rfl] at hself
  have hall := hmade.trans hserved
  unfold subscribe
  simp only
  split
  · rename_i hnone
    cases hnone.symm.trans hread'
  · rename_i hsome
    obtain rfl := Option.some.inj (hsome.symm.trans hread')
    split
    · split
      · exact hall.trans (leads_startPolling served k _)
      · exact hall
    · exact hall

/-- A subscriber who leaves leads on. -/
theorem leads_unsubscribe (s : Session) (now : Nat) (t : Ticket) :
    s.Leads (s.unsubscribe now t) := by
  have hleft : s.Leads { s with cache := (s.cache.unsubscribe t now).2 } := by
    unfold Cache.unsubscribe
    cases hread : s.cache.read t.key with
    | none => exact .of_cell (later_cache s _) fun _ _ _ _ => rfl
    | some e =>
        by_cases hmem : t.id ∈ e.subscribers
        · simp only [hmem, if_true]
          refine leads_turn hread (s.cache.read_put _ _) rfl ?_
          exact fun hwatched => Or.inl (e.isWatched_of_leftBy hwatched)
        · simp only [hmem, if_false]
          exact .of_cell (later_cache s _) fun _ _ _ _ => rfl
  unfold unsubscribe
  simp only
  split
  · refine hleft.trans (.trans ?_ (leads_ask _ _))
    exact .of_same rfl rfl rfl rfl rfl rfl
  · exact hleft

/-! ## Dropping -/

/-- Some entries that nobody watches are lost with their tags, and all others stay. -/
structure Loses (s s' : Session) : Prop where
  later : s.Later s'
  seen : ∀ k,
    (∀ landed hit stored, s'.cell k landed hit stored = s.cell k landed hit stored) ∨
    ∃ e, s.read k = some e ∧ e.isWatched = false ∧ ∀ landed hit stored,
      s'.cell k landed hit stored =
        { s.cell k landed hit stored with entry := none, tags := ∅ }

theorem later_forget (s : Session) (k : Key) : s.Later (s.forget k) :=
  ⟨rfl, rfl, Nat.le_refl _, fun _ _ hf => Or.inl hf, fun h => h.remove k⟩

/-- Forgetting some keys takes their tags off the record. -/
theorem cell_forgets (l : List Key) (s : Session) (k : Key) (landed : Nat → Option Fetch)
    (hit stored : Option Nat) : (l.foldl forget s).cell k landed hit stored =
      { s.cell k landed hit stored with tags := if k ∈ l then ∅ else s.tagging.tagsOf k } := by
  induction l generalizing s with
  | nil => rfl
  | cons k' l ih =>
      have htags := s.tagging.tagsOf_remove k' k
      rw [List.foldl_cons, ih]
      apply Cell.ext
      · rfl
      · simp only [forget, htags, List.mem_cons]
        by_cases hk : k = k'
        · simp [hk]
        · simp [hk]
      all_goals rfl

/-- Forgetting keys belongs to the same generation. -/
theorem later_forgets (l : List Key) (s : Session) : s.Later (l.foldl forget s) := by
  induction l generalizing s with
  | nil => exact .refl s
  | cons k l ih => exact (later_forget s k).trans (ih _)

/-- Entries that are removed are gone, and no others. -/
theorem read_removes (l : List Key) (c : Cache) (k : Key) :
    (l.foldl Cache.remove c).read k = if k ∈ l then none else c.read k := by
  induction l generalizing c with
  | nil => rfl
  | cons k' l ih =>
      rw [List.foldl_cons, ih, Cache.read_remove]
      by_cases hk : k = k'
      · simp [hk]
      · simp [hk]

/-- An entry that may be dropped is not watched. -/
theorem unwatched_of_evictable {c : Cache} {now : Nat} (h : c.isEvictable k now = true) :
    ∃ e, c.read k = some e ∧ e.isWatched = false := by
  unfold Cache.isEvictable at h
  cases hread : c.read k with
  | none => simp [hread] at h
  | some e => exact ⟨e, rfl, by simp_all [Entry.isEvictable]⟩

/-- Dropping a list of entries that nobody watches. -/
theorem loses_drops (s : Session) (l : List Key) (now : Nat)
    (hevictable : ∀ k ∈ l, s.cache.isEvictable k now = true) :
    s.Loses (l.foldl forget { s with cache := l.foldl Cache.remove s.cache }) where
  later := (later_cache s _).trans (later_forgets l _)
  seen := by
    intro k
    by_cases hk : k ∈ l
    · right
      obtain ⟨e, hread, hunwatched⟩ := unwatched_of_evictable (hevictable k hk)
      refine ⟨e, hread, hunwatched, fun landed hit stored => ?_⟩
      rw [cell_forgets, if_pos hk]
      apply Cell.ext
      · exact (read_removes l s.cache k).trans (if_pos hk)
      all_goals rfl
    · left
      intro landed hit stored
      rw [cell_forgets, if_neg hk]
      apply Cell.ext
      · exact (read_removes l s.cache k).trans (if_neg hk)
      all_goals rfl

/-- An eviction loses an entry that nobody watches, or none. -/
theorem loses_evict (s : Session) (now : Nat) (k : Key) : s.Loses (s.evict now k) := by
  unfold evict Cache.evict
  by_cases h : s.cache.isEvictable k now = true
  · rw [if_pos h]
    exact loses_drops s [k] now (by simpa using h)
  · rw [if_neg h]
    exact ⟨.refl s, fun _ => Or.inl fun _ _ _ => rfl⟩

/-- A collection loses all those that are due. -/
theorem loses_collect (s : Session) (now : Nat) : s.Loses (s.collect now).2 := by
  have hdrops := loses_drops s (s.cache.collect now).1 now (by simp [Cache.collect])
  refine ⟨hdrops.later.trans ?_, hdrops.seen⟩
  exact .of_same rfl rfl rfl rfl rfl

end Session

end QueryCache
