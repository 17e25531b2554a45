import QueryCache.Proofs.Attendance
import QueryCache.Proofs.VisibleData
import QueryCache.Session.Viewer
/-!
# The stages of an entry and what it holds in each

The stage, the data, the failure and the moment of the last fetch are written by answers, by
failures and by edits, each from a place of its own.  What a screen shows is read off all of them
together, and would be wrong if they disagreed.

`Entry.Turn` lists what can happen to an entry.  `Entry.Fits` is what every turn preserves, and no
turn takes data away (`Turn.data`).  Edits are shown only where there is data: they are laid over
what is shown, and settled where there is a log, which is never without data (`Layers`).

What an operation does to an entry is a course of turns, from the entry there was or from a new one
(`Entry.Ages`).  So it is for every operation of a session, and for every event but those that drop
entries.
-/

namespace QueryCache

namespace Entry

/-- What can happen to an entry. -/
inductive Turn : Entry → Entry → Prop
  /-- Somebody comes or goes. -/
  | attended (e : Entry) (subscribers : Std.ExtTreeSet Nat) (unusedSince : Option Nat) :
      Turn e { e with subscribers := subscribers, unusedSince := unusedSince }
  | begun (e : Entry) : Turn e e.beginFetch
  | loaded (e : Entry) (data : Version) (tags : TagSet) (now epoch : Nat) :
      Turn e (e.load data tags now epoch)
  | failed (e : Entry) (f : Failure) : Turn e (e.fail f)
  /-- Other data takes the place of what is shown. -/
  | displayed {e : Entry} (h : e.data.isSome) (data : Version) : Turn e (e.display data)
  | struck (e : Entry) : Turn e e.invalidate

/-- A course of turns. -/
abbrev Course : Entry → Entry → Prop := Relation.ReflTransGen Turn

/-- The entry holds what its stage says. -/
structure Fits (e : Entry) : Prop where
  loaded : e.stage = .loaded → e.data.isSome ∧ e.fetchedAt.isSome ∧ e.failure = none
  failed : e.stage = .failed → e.failure.isSome
  unfetched : e.stage = .unfetched → e.data = none ∧ e.failure = none ∧ e.fetchedAt = none

variable {e e' : Entry} {o o' o'' : Option Entry}

/-- A new entry holds nothing, and says so. -/
theorem fits_fresh (k : Key) (endpoint : String) (args : Json) (now : Nat) :
    Fits { fresh k endpoint args with unusedSince := some now } :=
  ⟨nofun, nofun, fun _ => ⟨rfl, rfl, rfl⟩⟩

/-- Every turn leaves an entry holding what its stage says. -/
theorem Fits.turn (h : e.Fits) (hturn : e.Turn e') : e'.Fits := by
  cases hturn with
  | attended => exact ⟨h.loaded, h.failed, h.unfetched⟩
  | begun => exact ⟨nofun, nofun, nofun⟩
  | loaded => exact ⟨fun _ => ⟨rfl, rfl, rfl⟩, nofun, nofun⟩
  | failed => exact ⟨nofun, fun _ => rfl, nofun⟩
  | displayed hdata =>
      refine ⟨fun hstage => ⟨rfl, (h.loaded hstage).2⟩, h.failed, fun hstage => ?_⟩
      rw [(h.unfetched hstage).1] at hdata
      cases hdata
  | struck => exact ⟨h.loaded, h.failed, h.unfetched⟩

/-- No turn takes data away. -/
theorem Turn.data (hturn : e.Turn e') (h : e.data.isSome) : e'.data.isSome := by
  cases hturn with
  | attended | begun | failed | struck => exact h
  | loaded | displayed => rfl

/-- An entry holds what its stage says along every course. -/
theorem Fits.course (h : e.Fits) (hcourse : e.Course e') : e'.Fits := by
  induction hcourse with
  | refl => exact h
  | tail _ hturn ih => exact ih.turn hturn

/-- No course takes data away. -/
theorem Course.data (hcourse : e.Course e') (h : e.data.isSome) : e'.data.isSome := by
  induction hcourse with
  | refl => exact h
  | tail _ hturn ih => exact hturn.data ih

/-- An entry takes its course, or a new one is made and takes its course. -/
inductive Ages : Option Entry → Option Entry → Prop
  | absent : Ages none none
  | made {k : Key} {endpoint : String} {args : Json} {now : Nat} {e : Entry}
      (h : Course { fresh k endpoint args with unusedSince := some now } e) : Ages none (some e)
  | goesOn {e e' : Entry} (h : e.Course e') : Ages (some e) (some e')

theorem Ages.refl (o : Option Entry) : Ages o o := by
  cases o with
  | none => exact .absent
  | some e => exact .goesOn .refl

/-- One course is followed by another. -/
theorem Ages.trans (h : Ages o o') (h' : Ages o' o'') : Ages o o'' := by
  cases h with
  | absent => exact h'
  | made hfirst =>
      cases h' with
      | goesOn hthen => exact .made (hfirst.trans hthen)
  | goesOn hfirst =>
      cases h' with
      | goesOn hthen => exact .goesOn (hfirst.trans hthen)

/-- The entry there is afterwards holds what its stage says, if the one before did. -/
theorem Ages.fits (h : Ages o (some e')) (hfits : ∀ e, o = some e → e.Fits) : e'.Fits := by
  cases h with
  | made hcourse => exact (fits_fresh _ _ _ _).course hcourse
  | goesOn hcourse => exact (hfits _ rfl).course hcourse

/-- The entry there is afterwards has data if the one before had. -/
theorem Ages.data (h : Ages (some e) (some e')) (hdata : e.data.isSome) : e'.data.isSome := by
  cases h with
  | goesOn hcourse => exact hcourse.data hdata

/-- The entry of a call, made or found. -/
theorem ages_entryFor (c : Cache) (k : Key) (endpoint : String) (args : Json) (now : Nat) :
    Ages (c.read k) (some (c.entryFor k endpoint args now)) := by
  unfold Cache.entryFor
  cases c.read k with
  | none => exact .made .refl
  | some e => exact .goesOn .refl

end Entry

namespace Session

/-- Every entry takes its course. -/
def Ages (s s' : Session) : Prop := ∀ k, Entry.Ages (s.read k) (s'.read k)

variable {s s' s'' : Session} {k : Key} {idField : String} {waits : Nat → Key → Prop}

/-- What leaves the cache alone leaves every entry as it is. -/
theorem Ages.of_cache (h : s'.cache = s.cache) : s.Ages s' := by
  intro k
  unfold read
  rw [h]
  exact .refl _

theorem Ages.refl (s : Session) : s.Ages s := .of_cache rfl

/-- Every entry takes its course over two operations if it does over each. -/
theorem Ages.trans (h : s.Ages s') (h' : s'.Ages s'') : s.Ages s'' := fun k => (h k).trans (h' k)

/-- Every entry takes its course over a row of operations if it does over each. -/
theorem ages_foldl {α : Type} {g : Session → α → Session}
    (hg : ∀ (s : Session) (a : α), s.Ages (g s a)) (l : List α) (s : Session) :
    s.Ages (l.foldl g s) := by
  induction l generalizing s with
  | nil => exact .refl s
  | cons a l ih => exact (hg s a).trans (ih (g s a))

/-! ## Single entries -/

/-- Putting an entry is a course of it, if what is put has come about by one. -/
theorem ages_put {e : Entry} (h : Entry.Ages (s.read k) (some e)) :
    s.Ages { s with cache := s.cache.put k e } := by
  intro k'
  change Entry.Ages _ ((s.cache.put k e).read k')
  rw [Cache.read_put]
  split
  · rename_i hk
    rw [hk]
    exact h
  · exact .refl _

/-- Altering an entry is a course of it, if the alteration is a turn. -/
theorem ages_alter {change : Entry → Entry}
    (hturn : ∀ e, s.read k = some e → e.Turn (change e)) : s.Ages (s.alter k change) := by
  intro k'
  rw [read_alter]
  split
  · rename_i hk
    subst hk
    cases hread : s.read k' with
    | none => exact .absent
    | some e => exact .goesOn (.single (hturn e hread))
  · exact .refl _

theorem ages_publish (s : Session) (k : Key) : s.Ages (s.publish k) := .of_cache rfl

theorem ages_ask (s : Session) (e : Errand) : s.Ages (s.ask e) := by
  intro k
  rw [read_ask]
  exact .refl _

/-- A change that is told of is a course of its entry, if it is a turn. -/
theorem ages_change {change : Entry → Entry}
    (hturn : ∀ e, s.read k = some e → e.Turn (change e)) : s.Ages (s.change k change) := by
  unfold Session.change
  split
  · exact (ages_alter hturn).trans (ages_publish _ k)
  · exact .refl s

/-! ## Fetching -/

/-- A departure begins the fetch of the entry. -/
theorem ages_depart (s : Session) (k : Key) (endpoint : Endpoint) (args : Json) (epoch : Nat) :
    s.Ages (s.depart k endpoint args epoch).2 := by
  rw [depart_eq]
  have hboarded : s.Ages (s.boarded endpoint ⟨k, endpoint, args, epoch, s.generation⟩) :=
    .of_cache rfl
  exact (hboarded.trans (ages_change fun e _ => .begun e)).trans (ages_ask _ _)

/-- A launch begins it or joins a flight. -/
theorem ages_launch (s : Session) (k : Key) (endpoint : Endpoint) (args : Json) (epoch : Nat) :
    s.Ages (s.launch k endpoint args epoch).2 := by
  rcases launch_cases s k endpoint args epoch with ⟨hjoin, -⟩ | ⟨hdepart, -⟩
  · rw [hjoin]
    exact .refl s
  · rw [hdepart]
    exact ages_depart s k endpoint args epoch

theorem ages_refetch (s : Session) (k : Key) : s.Ages (s.refetch k) := by
  unfold refetch
  split
  · split
    · exact ages_launch s k _ _ _
    · exact .refl s
  · exact .refl s

theorem ages_followUp (s : Session) (f : Fetch) : s.Ages (s.followUp f) := by
  unfold followUp
  split
  · exact .refl s
  · split
    · split
      · exact ages_refetch s f.key
      · exact .refl s
    · exact .refl s

/-- An answer that is stored is a turn, if there is an entry to hold it. -/
theorem ages_store (s : Session) (now : Nat) (f : Fetch) (value : Json) :
    s.Ages (s.store now f value).2 := by
  by_cases hgen : s.generation = f.generation
  · rw [store_current hgen]
    refine .trans ?_ (ages_change fun e _ => .loaded e _ _ _ _)
    exact .of_cache rfl
  · rw [store_older hgen]
    exact .of_cache rfl

/-- A failure that is stored is a turn, if there is an entry to hold it. -/
theorem ages_storeFailure (s : Session) (f : Fetch) (failure : Failure) :
    s.Ages (s.storeFailure f failure) := by
  by_cases hgen : s.generation = f.generation
  · rw [storeFailure_current hgen]
    have hfailed : s.Ages (s.change f.key fun e => e.fail failure) :=
      ages_change fun e _ => .failed e failure
    exact hfailed.trans (.of_cache rfl)
  · rw [storeFailure_older hgen]
    exact .refl s

/-- A landing stores what was brought, or nothing. -/
theorem ages_land (s : Session) (now flight : Nat) (f : Fetch) (brought : Except Failure Json) :
    s.Ages (s.land now flight f brought).2 := by
  have hclosed : ∀ s : Session, s.Ages (s.closed flight f) := fun s => .of_cache rfl
  rw [land_eq]
  cases brought with
  | ok value => exact (ages_store s now f value).trans (hclosed _)
  | error failure => exact (ages_storeFailure s f failure).trans (hclosed _)

/-! ## Watching -/

/-- A query makes an entry where there is none, and may begin its fetch. -/
theorem ages_query (s : Session) (now : Nat) (endpoint : Endpoint) (args : Json) :
    s.Ages (s.query now endpoint args).2 := by
  let k := endpoint.keyOf args
  let made := { s with cache := s.cache.put k (s.cache.entryFor k endpoint.name args now) }
  let asked := if s.cache.contains k then made else made.ask (.grace k)
  have hmade : s.Ages made := ages_put (Entry.ages_entryFor s.cache k endpoint.name args now)
  have hasked : s.Ages asked := by
    refine hmade.trans ?_
    simp only [asked]
    split
    · exact .refl made
    · exact ages_ask made _
  unfold query
  simp only
  split
  · exact hasked
  · exact hasked.trans (ages_launch asked k endpoint args _)

theorem ages_startPolling (s : Session) (k : Key) (interval : Nat) :
    s.Ages (s.startPolling k interval) := by
  unfold startPolling
  split
  · split
    · refine .trans ?_ (ages_ask _ _)
      exact .of_cache rfl
    · exact .of_cache rfl
  · exact .refl s

/-- A subscription makes an entry where there is none, may begin its fetch, and its subscriber
comes. -/
theorem ages_subscribe (s : Session) (now : Nat) (endpoint : Endpoint) (args : Json) :
    s.Ages (s.subscribe now endpoint args).2 := by
  let k := endpoint.keyOf args
  let joined := { s with cache := (s.cache.subscribe k endpoint.name args now).2 }
  have hjoined : s.Ages joined := by
    have hmade := Entry.ages_entryFor s.cache k endpoint.name args now
    exact ages_put (hmade.trans (.goesOn (.single (.attended _ _ none))))
  unfold subscribe
  simp only
  split
  · exact hjoined
  · rename_i e hread
    let served := if joined.needsFetch now endpoint e then joined.refetch k else joined
    have hserved : s.Ages served := by
      refine hjoined.trans ?_
      simp only [served]
      split
      · exact ages_refetch joined k
      · exact .refl joined
    split
    · split
      · exact hserved.trans (ages_startPolling served k _)
      · exact hserved
    · exact hserved

/-- A subscriber who leaves is a turn of his entry. -/
theorem ages_unsubscribe (s : Session) (now : Nat) (t : Ticket) :
    s.Ages (s.unsubscribe now t) := by
  have hleft : s.Ages { s with cache := (s.cache.unsubscribe t now).2 } := by
    unfold Cache.unsubscribe
    cases hread : s.cache.read t.key with
    | none => exact .refl s
    | some e =>
        by_cases hmem : t.id ∈ e.subscribers
        · have hturn : Entry.Ages (s.read t.key) (some (e.leftBy t.id now)) := by
            rw [show s.read t.key = some e from hread]
            exact .goesOn (.single (.attended e _ _))
          simp only [hmem, if_true]
          exact ages_put hturn
        · simp only [hmem, if_false]
          exact .refl s
  unfold unsubscribe
  simp only
  split
  · refine hleft.trans (.trans ?_ (ages_ask _ _))
    exact .of_cache rfl
  · exact hleft

/-! ## Writing -/

/-- A declaration makes stale what it hits, and may begin its fetch. -/
theorem ages_invalidate (s : Session) (tags : List Tag) : s.Ages (s.invalidate tags).2 := by
  rw [invalidate_eq s tags _ rfl]
  refine .trans ?_ (ages_foldl ages_refetch _ _)
  refine .trans ?_ (ages_foldl ages_publish _ _)
  exact ages_foldl (fun s k => ages_alter fun e _ => .struck e) _ s

/-- Other data is shown where there is data. -/
theorem ages_display {shown : Version} (h : s.dataAt k = some shown) (overlays : Overlays)
    (data : Version) : s.Ages (({ s with overlays := overlays } : Session).display k data) := by
  have hoverlays : s.Ages { s with overlays := overlays } := .of_cache rfl
  refine hoverlays.trans (ages_alter fun e hread => .displayed ?_ data)
  have hread : s.read k = some e := hread
  unfold dataAt at h
  rw [hread] at h
  rw [show e.data = some shown from h]
  rfl

/-- Edits are shown over what is shown. -/
theorem ages_layEdits (write : Nat) (edits : List SpeculativeEdit) (s : Session) :
    s.Ages (s.layEdits write edits).2 := by
  induction edits generalizing s with
  | nil => exact .refl s
  | cons e rest ih =>
      unfold layEdits
      cases hshown : s.dataAt e.target with
      | none => exact ih s
      | some shown => exact (ages_display hshown _ _).trans (ih _)

/-- A write begins with turns of the entries it edits. -/
theorem ages_beginWrite (s : Session) (edits : List SpeculativeEdit) :
    s.Ages (s.beginWrite edits).2 := by
  have hcounted : s.Ages { s with nextWrite := s.nextWrite + 1 } := .of_cache rfl
  exact (hcounted.trans (ages_layEdits _ edits _)).trans (ages_foldl ages_publish _ _)

/-- Edits are settled only where there is a log, and so where there is data. -/
theorem Layers.ages_settleEdits (h : s.Layers idField waits) {write : Nat}
    {settle : Overlays → Key → Option Version × Overlays}
    (hclears : ∀ o k, Overlays.Clears write o k (settle o k)) (keys : List Key) :
    s.Ages (s.settleEdits settle keys).2 := by
  induction keys generalizing s waits with
  | nil => exact .refl s
  | cons k rest ih =>
      have hcleared := h.clear (hclears s.overlays k)
      have hlogged := hclears s.overlays k
      unfold Session.settleEdits
      cases hresult : settle s.overlays k with
      | mk shown overlays =>
          rw [hresult] at hcleared hlogged
          cases shown with
          | none =>
              have hoverlays : s.Ages { s with overlays := overlays } := .of_cache rfl
              exact hoverlays.trans (ih hcleared)
          | some data =>
              rcases hlogged with ⟨hnone, -⟩ | ⟨_, log, _, _, -, hlog, -, -⟩
              · cases congrArg Prod.fst hnone
              · obtain ⟨v, hshown, -⟩ := (h.layer k log hlog).shown
                exact (ages_display hshown overlays data).trans (ih hcleared)

/-- A write is taken back where there is data to show without it. -/
theorem Layers.ages_withdraw (h : s.Layers idField waits) (w : Write) : s.Ages (s.withdraw w) :=
  (h.ages_settleEdits (Overlays.clears_rollback w.id) w.targets).trans
    (ages_foldl ages_publish _ _)

/-- A write is confirmed where there is data to show, and what it declares is made stale. -/
theorem Layers.ages_confirm (h : s.Layers idField waits) (w : Write) (m : Mutation)
    (args response : Json) : s.Ages (s.confirm w m args response) := by
  have hsettled : s.Ages (s.settleWrite w response) :=
    (h.ages_settleEdits (fun o k => Overlays.clears_commit w.id response o k) w.targets).trans
      (ages_foldl ages_publish _ _)
  have hdeclared : s.Ages (if (m.stales args response).isEmpty then s.settleWrite w response
      else ((s.settleWrite w response).invalidate (m.stales args response)).2) := by
    split
    · exact hsettled
    · exact hsettled.trans (ages_invalidate _ _)
  unfold confirm
  cases m.announcement with
  | none => exact hdeclared
  | some message => exact hdeclared.trans (.of_cache rfl)

/-- What is lost is gone, and all else stays. -/
theorem Loses.gone_or_same (h : s.Loses s') (k : Key) :
    s'.read k = none ∨ s'.read k = s.read k := by
  rcases h.seen k with hsame | ⟨_, -, -, hlost⟩
  · exact Or.inr (congrArg Cell.entry (hsame (fun _ => none) none none))
  · exact Or.inl (congrArg Cell.entry (hlost (fun _ => none) none none))

end Session

namespace Situation

variable {p : Situation} {idField : String}

/-- **Every event drops an entry or lets it take its course.** -/
theorem ages_step (h : p.Layered idField) (now : Nat) (e : Event) (k : Key) :
    (p.step now e).session.read k = none ∨
      Entry.Ages (p.session.read k) ((p.step now e).session.read k) := by
  have haged : ∀ {s : Session}, p.session.Ages s →
      s.takeErrands.2.read k = none ∨ Entry.Ages (p.session.read k) (s.takeErrands.2.read k) :=
    fun h => Or.inr (h k)
  have hlost : ∀ {s : Session}, p.session.Loses s →
      s.takeErrands.2.read k = none ∨ Entry.Ages (p.session.read k) (s.takeErrands.2.read k) := by
    intro s hloses
    refine (hloses.gone_or_same k).imp_right fun hsame => ?_
    have hsame : s.takeErrands.2.read k = p.session.read k := hsame
    rw [hsame]
    exact .refl _
  have hoccurs := p.occurs_step now e
  generalize p.step now e = p' at hoccurs ⊢
  cases hoccurs with
  | nothing => exact Or.inr (.refl _)
  | subscribe => exact haged (p.session.ages_subscribe now _ _)
  | unsubscribe ticket => exact haged (p.session.ages_unsubscribe now ticket)
  | query => exact haged (p.session.ages_query now _ _)
  | refetch | ticks => exact haged (p.session.ages_refetch _)
  | ends => exact Or.inr (.refl _)
  | evict k => exact hlost (p.session.loses_evict now k)
  | collect => exact hlost (p.session.loses_collect now)
  | reset => exact Or.inl (Session.read_reset p.session k)
  | invalidate tags => exact haged (p.session.ages_invalidate tags)
  | write mutation args edits => exact haged (p.session.ages_beginWrite edits)
  | confirm _ response => exact haged (h.layers.ages_confirm _ _ _ response)
  | giveUp => exact haged ((h.layers.ages_withdraw _).trans (.of_cache rfl))
  | cancel => exact haged (h.layers.ages_withdraw _)
  | land _ brought => exact haged (p.session.ages_land now _ _ brought)
  | followUp => exact haged (p.session.ages_followUp _)
  | standIn => exact Or.inr (.refl _)

/-- Every entry holds what its stage says. -/
theorem fits_after (setup : Setup) (h : History) (k : Key) :
    ∀ e, (after setup h).session.read k = some e → e.Fits := by
  induction h with
  | nil =>
      intro e hread
      simp [after, start, Session.start, Session.read, Cache.empty, Cache.read] at hread
  | cons event h ih =>
      intro e hread
      rcases ages_step (layered_after setup h) event.1 event.2 k with hgone | hages
      · cases hgone.symm.trans hread
      · have hread' : ((after setup h).step event.1 event.2).session.read k = some e := hread
        rw [hread'] at hages
        exact hages.fits ih

/-- Data stays until the entry is dropped. -/
theorem data_since (setup : Setup) (h since : History) (k : Key)
    (hthere : ∀ l, l <:+ since → ((after setup (l ++ h)).session.read k).isSome)
    (hdata : ((after setup h).session.dataAt k).isSome) :
    ((after setup (since ++ h)).session.dataAt k).isSome := by
  induction since with
  | nil => exact hdata
  | cons event since ih =>
      have hbefore := ih fun l hl => hthere l (hl.trans (List.suffix_cons event since))
      obtain ⟨e', hread'⟩ := Option.isSome_iff_exists.mp (hthere _ (List.suffix_refl _))
      obtain ⟨v, hv⟩ := Option.isSome_iff_exists.mp hbefore
      obtain ⟨e, hread⟩ := Session.read_of_dataAt hv
      rcases ages_step (layered_after setup (since ++ h)) event.1 event.2 k with hgone | hages
      · cases hgone.symm.trans hread'
      · have hafter : ((after setup (since ++ h)).step event.1 event.2).session.read k = some e' :=
          hread'
        rw [hread, hafter] at hages
        unfold Session.dataAt at hbefore ⊢
        rw [hread] at hbefore
        rw [hread']
        exact hages.data hbefore

end Situation

/-! ## What is shown -/

/-- An error is shown in the failed stage, and in no other. -/
theorem Entry.Fits.isError_iff {e : Entry} (h : e.Fits) :
    (Display.ofEntry e).isError = true ↔ e.stage = .failed := by
  have hfailed := h.failed
  unfold Display.ofEntry
  cases hstage : e.stage <;> cases hdata : e.data <;> cases hfailure : e.failure <;>
    simp_all [Display.isError]

/-- Nothing is shown of an entry that has not been fetched, and of no other. -/
theorem Entry.Fits.idle_iff {e : Entry} (h : e.Fits) :
    Display.ofEntry e = .idle ↔ e.stage = .unfetched := by
  have hloaded := h.loaded
  have hfailed := h.failed
  have hunfetched := h.unfetched
  unfold Display.ofEntry
  cases hstage : e.stage <;> cases hdata : e.data <;> cases hfailure : e.failure <;> simp_all

namespace Situation

/-- **An entry holds what its stage says, and keeps its data until it is dropped.**  So what a
screen shows is an error exactly if the last fetch failed, and nothing at all only if nobody has
asked yet. -/
theorem entry_lifecycle (setup : Setup) (h : History) (k : Key) :
    (∀ e, (after setup h).session.read k = some e →
      (e.stage = .loaded → e.data.isSome ∧ e.fetchedAt.isSome ∧ e.failure = none) ∧
      (e.stage = .failed → e.failure.isSome) ∧
      (e.stage = .unfetched → e.data = none ∧ e.failure = none ∧ e.fetchedAt = none)) ∧
    (∀ since : History, (∀ l, l <:+ since → ((after setup (l ++ h)).session.read k).isSome) →
      ((after setup h).session.dataAt k).isSome →
        ((after setup (since ++ h)).session.dataAt k).isSome) ∧
    ((Display.ofLookup ((after setup h).session.read k)).isError = true ↔
      ∃ e, (after setup h).session.read k = some e ∧ e.stage = .failed) ∧
    (Display.ofLookup ((after setup h).session.read k) = .idle ↔
      ∀ e, (after setup h).session.read k = some e → e.stage = .unfetched) := by
  have hfits := fits_after setup h k
  refine ⟨fun e hread => ?_, fun since => data_since setup h since k, ?_, ?_⟩
  · obtain ⟨hloaded, hfailed, hunfetched⟩ := hfits e hread
    exact ⟨hloaded, hfailed, hunfetched⟩
  · cases hread : (after setup h).session.read k with
    | none => simp [Display.ofLookup, Display.isError]
    | some e => simpa [Display.ofLookup] using (hfits e hread).isError_iff
  · cases hread : (after setup h).session.read k with
    | none => simp [Display.ofLookup]
    | some e => simpa [Display.ofLookup] using (hfits e hread).idle_iff

end Situation

end QueryCache
