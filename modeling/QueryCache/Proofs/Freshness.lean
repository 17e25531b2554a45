import QueryCache.Proofs.Overtaking
/-!
# Nobody is left with stale data, and where that may still happen

Three statements on sessions whose calls share their flights, after any history.

* `no_subscriber_left_behind` — once nothing is under way for a key, whoever watches its entry
  sees a failure, or the answer of a flight that departed after the last declaration that hit
  the entry.
* `stale_after_landing_iff` — an answer is stored as stale exactly if the flight was overtaken,
  that is if a declaration hit the entry by the tags of the answer before.  The tags of the answer
  under way do not count, so a declaration that reaches these alone is lost.
* `remembered_after_landing_iff` — a declaration made during a flight is remembered exactly if the
  entry it hit is still there when the flight lands, or the entry made anew is watched and the
  flight happened to depart in a later epoch than the first.
-/

namespace QueryCache.Situation

/-- Nothing of a key is in the air, and what has landed has been followed up. -/
structure QuietAt (p : Situation) (k : Key) : Prop where
  air : ∀ (n : Nat) (f : Fetch), p.session.fetches[n]? = some f → p.session.counts k f = false
  landed : ∀ (n : Nat) (f : Fetch), p.landed[n]? = some f → p.session.counts k f = false

variable {setup : Setup} {endpoints : List Endpoint} {h : History} {k : Key}

/-- **No subscriber is left behind.**  Once a key is quiet, an entry that is watched has failed, or
is loaded and fresh, and then no declaration has hit it since the flight departed that brought
what is stored. -/
theorem no_subscriber_left_behind (hcatalog : setup.endpoints = Setup.catalog endpoints)
    (hshared : ∀ endpoint ∈ endpoints, endpoint.shared = true)
    (hquiet : (after setup h).QuietAt k) {e : Entry}
    (hread : (after setup h).session.read k = some e) (hwatched : e.isWatched = true) :
    e.stage = .failed ∨ (e.stage = .loaded ∧ e.invalidated = false ∧
      ∃ flight, lastStored setup k h = some flight ∧
        ∀ mark, lastHit setup k h = some mark → mark ≤ flight) := by
  have hnamed := Setup.wellNamed_of_catalog hcatalog
  have hshares := (Setup.allShared_of_catalog hcatalog hshared).shares k
  have hsound := sound_after hnamed hshares h
  have hair : ∀ n, (cellAfter setup k h).air n = none := by
    intro n
    change ((after setup h).session.fetches[n]?).filter _ = none
    cases hn : (after setup h).session.fetches[n]? with
    | none => rfl
    | some f => rw [Option.filter_some, hquiet.air n f hn]; rfl
  have hclosed : (cellAfter setup k h).window = none := by
    cases hwindow : (cellAfter setup k h).window with
    | none => rfl
    | some n =>
        obtain ⟨f, hf⟩ := (known_cellAfter hnamed k h).carried n hwindow
        rw [hair] at hf
        cases hf
  have hsettled : ∀ n, (cellAfter setup k h).landed n = none := by
    intro n
    change ((after setup h).landed[n]?).filter _ = none
    cases hn : (after setup h).landed[n]? with
    | none => rfl
    | some f => rw [Option.filter_some, hquiet.landed n f hn]; rfl
  rcases hsound.attended e hread hwatched with
    (hopen | hfailed | ⟨hloaded, hfresh⟩) | ⟨-, n, f, howed, -⟩
  · rw [hclosed] at hopen
    cases hopen
  · exact Or.inl hfailed
  · obtain ⟨flight, hstored, hmarks⟩ := hsound.loaded e hread hloaded
    exact Or.inr ⟨hloaded, hfresh, flight, hstored, hmarks hfresh⟩
  · rw [hsettled] at howed
    cases howed

/-- A client of one endpoint, whose answers all provide one family. -/
def lone : Setup where
  endpoints := Setup.catalog
    [⟨"n", fun _ => ⟨.get, "/", [], none⟩, fun _ _ => [.ofKind "T"], none, true⟩]
  cascade := .empty
  options := { Options.standard with keep := 100 }
  background := true

/-- The key of the one call there is. -/
def loneKey : Key := .ofCall "n" .null

/-- A subscriber comes, its answer lands and is declared stale, and the next one lands. -/
def renewed : History :=
  [(3, .followUp 1), (3, .land 1 (.ok .null)), (2, .invalidate [.ofKind "T"]),
    (1, .followUp 0), (1, .land 0 (.ok .null)), (0, .subscribe "n" .null)]

/-- The subscriber of `renewed` has got the answer that departed after the declaration. -/
theorem no_subscriber_left_behind_renewed :
    ∃ e, (after lone renewed).session.read loneKey = some e ∧ e.isWatched = true ∧
      (e.stage = .failed ∨ (e.stage = .loaded ∧ e.invalidated = false ∧
        ∃ flight, lastStored lone loneKey renewed = some flight ∧
          ∀ mark, lastHit lone loneKey renewed = some mark → mark ≤ flight)) := by
  have hfacts : (after lone renewed).session.fetches.isEmpty = true ∧
      (after lone renewed).landed.isEmpty = true ∧
      ((after lone renewed).session.read loneKey).map Entry.isWatched = some true := by
    decide +kernel
  obtain ⟨hair, hlanded, hwatched⟩ := hfacts
  obtain ⟨e, hread, hwatched⟩ := Option.map_eq_some_iff.mp hwatched
  have hquiet : (after lone renewed).QuietAt loneKey :=
    { air := fun n f hf => by simp [Std.ExtTreeMap.isEmpty_iff.mp hair] at hf
      landed := fun n f hf => by simp [Std.ExtTreeMap.isEmpty_iff.mp hlanded] at hf }
  exact ⟨e, hread, hwatched,
    no_subscriber_left_behind rfl (by simp) hquiet hread hwatched⟩

section Landing

variable {flight : Nat} {f : Fetch}

/-- Whose flights are shared is settled by the endpoint of any one of them. -/
theorem shares_of_air (hnamed : setup.WellNamed)
    (hair : (after setup h).session.fetches[flight]? = some f) (hshared : f.endpoint.shared = true)
    (hcurrent : f.generation = (after setup h).session.generation) : setup.Shares f.key := by
  have hcounts := Session.counts_self hcurrent
  have hserves := (known_cellAfter hnamed f.key h).air flight f (air_cellAfter hair hcounts)
  exact hnamed.shares hserves hshared

/-- The session right after a landing. -/
theorem session_land (now : Nat) (value : Json)
    (hair : (after setup h).session.fetches[flight]? = some f) :
    (after setup ((now, .land flight (.ok value)) :: h)).session =
      ((after setup h).session.land now flight f (.ok value)).2.takeErrands.2 := by
  simp only [after, step, hair]
  rfl

/-- The entry right after a landing. -/
theorem read_land (now : Nat) (value : Json)
    (hair : (after setup h).session.fetches[flight]? = some f)
    (hcurrent : f.generation = (after setup h).session.generation) :
    ∃ shown, (after setup ((now, .land flight (.ok value)) :: h)).session.read f.key =
      ((after setup h).session.read f.key).map fun e =>
        e.load shown (f.endpoint.tagsOf f.args value) now f.epoch := by
  rw [session_land now value hair]
  exact ⟨_, Session.read_land_ok hcurrent.symm now flight value⟩

/-- What is stored now is stale exactly if it was declared so since the flight departed. -/
theorem isStale_load (e : Entry) (shown : Version) (tags : TagSet) (now epoch maxAge : Nat) :
    (e.load shown tags now epoch).isStale now maxAge = (e.invalidated && e.epoch != epoch) := by
  simp [Entry.isStale, Entry.load]

/-- What has just landed is stale if the entry is gone or the flight was overtaken. -/
theorem isStale_land_iff (hnamed : setup.WellNamed) (now : Nat) (value : Json)
    (hair : (after setup h).session.fetches[flight]? = some f) (hshared : f.endpoint.shared = true)
    (hcurrent : f.generation = (after setup h).session.generation) :
    (after setup ((now, .land flight (.ok value)) :: h)).session.cache.isStale f.key now = true ↔
      (after setup h).session.read f.key = none ∨ Overtaken setup f.key flight h := by
  have hshares := shares_of_air hnamed hair hshared hcurrent
  have hcounts := Session.counts_self hcurrent
  have hover : Overtaken setup f.key flight h ↔ _ :=
    overtaken_iff hnamed (by rw [hair]; rfl)
  obtain ⟨shown, hread⟩ := read_land now value hair hcurrent
  have hread' : (after setup ((now, .land flight (.ok value)) :: h)).session.cache.read f.key = _ :=
    hread
  unfold Cache.isStale
  rw [hread', hover]
  cases hentry : (after setup h).session.read f.key with
  | none => simp
  | some e =>
      have hstale : (e.invalidated && e.epoch != f.epoch) = true ↔
          ∃ mark, lastHit setup f.key h = some mark ∧ flight < mark :=
        (sound_after hnamed hshares h).stale_iff (air_cellAfter hair hcounts) hentry
      simp only [Option.map_some, isStale_load, reduceCtorEq, false_or]
      exact hstale

/-- **Which answers are stored as stale.**  Right after the landing of a shared flight of the
present generation its key counts as stale exactly if the entry is gone, or the flight was
overtaken.  What a declaration has to reach for that are the tags on record when it is made; those
that the landing answer provides have no say. -/
theorem stale_after_landing_iff (hcatalog : setup.endpoints = Setup.catalog endpoints)
    (now : Nat) (value : Json)
    (hair : (after setup h).session.fetches[flight]? = some f) (hshared : f.endpoint.shared = true)
    (hcurrent : f.generation = (after setup h).session.generation) :
    ((after setup ((now, .land flight (.ok value)) :: h)).session.cache.isStale f.key now = true ↔
      (after setup h).session.read f.key = none ∨ Overtaken setup f.key flight h) ∧
    ∀ earlier tags, f.key ∈ (after setup earlier).declares (.invalidate tags) ↔
      ∃ t ∈ setup.cascade.reach tags, ∃ p ∈ (after setup earlier).session.tagging.tagsOf f.key,
        t.covers p = true := by
  have hnamed := Setup.wellNamed_of_catalog hcatalog
  constructor
  · exact isStale_land_iff hnamed now value hair hshared hcurrent
  · intro earlier tags
    exact mem_declares_invalidate hnamed tags

/-- The first answer of all is under way when its tags are declared stale. -/
def unheard : History := [(50, .invalidate [.ofKind "T"]), (0, .query "n" .null)]

/-- The declaration reaches a tag that the answer provides, and the answer counts as fresh. -/
theorem stale_after_landing_unheard :
    ∃ f, (after lone unheard).session.fetches[0]? = some f ∧ f.key = loneKey ∧
      (f.endpoint.tagsOf f.args .null).toList = (lone.cascade.reach [.ofKind "T"]).toList ∧
      (after lone ((100, .land 0 (.ok .null)) :: unheard)).session.cache.isStale loneKey 100 =
        false ∧
      ((after lone ((100, .land 0 (.ok .null)) :: unheard)).session.cache.isStale f.key 100 =
          true ↔
        (after lone unheard).session.read f.key = none ∨ Overtaken lone f.key 0 unheard) ∧
      (f.key ∈ (after lone [(0, .query "n" .null)]).declares (.invalidate [.ofKind "T"]) ↔
        ∃ t ∈ lone.cascade.reach [.ofKind "T"],
          ∃ p ∈ (after lone [(0, .query "n" .null)]).session.tagging.tagsOf f.key,
            t.covers p = true) := by
  have hfacts : ((after lone unheard).session.fetches[0]?.map fun f =>
        (f.key, f.generation, f.endpoint.shared, (f.endpoint.tagsOf f.args .null).toList)) =
        some (loneKey, 0, true, (lone.cascade.reach [.ofKind "T"]).toList) ∧
      (after lone unheard).session.generation = 0 ∧
      (after lone ((100, .land 0 (.ok .null)) :: unheard)).session.cache.isStale loneKey 100 =
        false := by
    decide +kernel
  obtain ⟨hflight, hgen, hfresh⟩ := hfacts
  obtain ⟨f, hair, hf⟩ := Option.map_eq_some_iff.mp hflight
  simp only [Prod.mk.injEq] at hf
  obtain ⟨hkey, hcurrent, hshared, htags⟩ := hf
  obtain ⟨hstale, hreached⟩ :=
    stale_after_landing_iff rfl 100 .null hair hshared (hcurrent.trans hgen.symm)
  exact ⟨f, hair, hkey, htags, hfresh, hstale, hreached [(0, .query "n" .null)] [.ofKind "T"]⟩

/-- The window of a key is closed by the landing of the flight that had it. -/
theorem window_land (hnamed : setup.WellNamed) (now : Nat) (value : Json)
    (hair : (after setup h).session.fetches[flight]? = some f) (hshared : f.endpoint.shared = true)
    (hcurrent : f.generation = (after setup h).session.generation) :
    (after setup ((now, .land flight (.ok value)) :: h)).session.flights.window? f.key = none := by
  have hshares := shares_of_air hnamed hair hshared hcurrent
  have hcounts := Session.counts_self hcurrent
  have hopen : (after setup h).session.flights.window? f.key = some flight :=
    (sound_after hnamed hshares h).single flight f (air_cellAfter hair hcounts)
  have hclosed := Session.window?_land_ok hcurrent.symm hopen now value
  rw [session_land now value hair]
  exact hclosed

/-- A declaration is remembered as long as the entry it hit is there, and no longer. -/
theorem overtaken_iff_there (hnamed : setup.WellNamed) (hshares : setup.Shares f.key)
    {later earlier : History} {t : Nat} {event : Event}
    (hsplit : h = later ++ (t, event) :: earlier)
    (hbefore : (after setup earlier).session.fetches[flight]? = some f)
    (hdeclares : f.key ∈ (after setup earlier).declares event)
    (hair : (after setup h).session.fetches[flight]? = some f)
    (hcounts : (after setup h).session.counts f.key f = true) {e : Entry}
    (hread : (after setup h).session.read f.key = some e) :
    Overtaken setup f.key flight h ↔ ∀ since, since <:+ later →
      (after setup (since ++ (t, event) :: earlier)).session.cache.contains f.key = true := by
  constructor
  · intro hover since hsince
    refine Decidable.byContradiction fun hgone => ?_
    have habsent : (after setup (since ++ (t, event) :: earlier)).session.read f.key = none := by
      rw [Cache.contains_eq] at hgone
      simpa [Session.read] using hgone
    have hdeparted : flight <
        (after setup (since ++ (t, event) :: earlier)).session.flights.nextFlight :=
      Nat.lt_of_lt_of_le ((tidy_after hnamed earlier).2.1.air flight f hbefore).1
        (nextFlight_suffix hnamed ((List.suffix_cons _ _).trans (List.suffix_append _ _)))
    have hmid : since ++ (t, event) :: earlier <:+ h := by
      obtain ⟨rest, rfl⟩ := hsince
      rw [hsplit]
      exact ⟨rest, by simp⟩
    have hstage := unfetched_since hnamed hshares hmid habsent hdeparted hair hcounts hread
    have hnever : lastHit setup f.key h = none :=
      ((sound_after hnamed hshares h).blank e hread hstage).2.1
    obtain ⟨mark, hmark, -⟩ := (overtaken_iff hnamed (by rw [hair]; rfl)).mp hover
    rw [hnever] at hmark
    cases hmark
  · exact fun hthere =>
      ⟨later, t, event, earlier, hsplit, by rw [hbefore]; rfl, hdeclares, hthere⟩

/-- What the follow-up of a landed flight does for those who watch. -/
theorem fetchedAnew_after_followUp_iff (hnamed : setup.WellNamed) (now soon : Nat) (value : Json)
    (hair : (after setup h).session.fetches[flight]? = some f) (hshared : f.endpoint.shared = true)
    (hcurrent : f.generation = (after setup h).session.generation) {e : Entry}
    (hread : (after setup h).session.read f.key = some e) :
    (after setup ((soon, .followUp flight) :: (now, .land flight (.ok value)) :: h)
      ).session.FetchedAnew f.key flight ↔ e.isWatched = true ∧ e.epoch ≠ f.epoch := by
  have hshares := shares_of_air hnamed hair hshared hcurrent
  obtain ⟨hsetup, -, hknown⟩ := tidy_after hnamed ((now, .land flight (.ok value)) :: h)
  obtain ⟨shown, hloaded⟩ := read_land now value hair hcurrent
  rw [hread] at hloaded
  have hlanded : (after setup ((now, .land flight (.ok value)) :: h)).landed[flight]? = some f := by
    simp [after, step, hair]
  have hsession :
      (after setup ((soon, .followUp flight) :: (now, .land flight (.ok value)) :: h)).session =
        ((after setup ((now, .land flight (.ok value)) :: h)).session.followUp
          f).takeErrands.2 := by
    rw [after, step, hlanded]
    rfl
  have hgen : (after setup ((now, .land flight (.ok value)) :: h)).session.generation =
      f.generation := by
    rw [session_land now value hair, hcurrent]
    exact (Session.later_land _ now flight f _).generation
  have hflight := Nat.lt_of_lt_of_le ((tidy_after hnamed h).2.1.air flight f hair).1
    (flights_step hnamed h now (.land flight (.ok value))).1
  rw [hsession]
  exact Session.fetchedAnew_followUp_iff hknown (by rw [hsetup]; exact hshares) hgen hloaded
    (by simp [Entry.load]) (window_land hnamed now value hair hshared hcurrent) hflight

/-- **When a declaration is remembered.**  A key is declared stale while a flight of it is in the
air, and the flight lands for an entry.  The entry is stale then, or the follow-up has a newer
flight depart for those who watch it, in two cases only: the entry that was hit has been there
ever since, or the entry was made anew, is watched, and the flight departed in a later epoch than
the first. -/
theorem remembered_after_landing_iff (hcatalog : setup.endpoints = Setup.catalog endpoints)
    (now soon : Nat) (value : Json) {later earlier : History} {t : Nat} {event : Event}
    (hsplit : h = later ++ (t, event) :: earlier)
    (hbefore : (after setup earlier).session.fetches[flight]? = some f)
    (hdeclares : f.key ∈ (after setup earlier).declares event)
    (hair : (after setup h).session.fetches[flight]? = some f) (hshared : f.endpoint.shared = true)
    (hcurrent : f.generation = (after setup h).session.generation) {e : Entry}
    (hread : (after setup h).session.read f.key = some e) :
    ((after setup ((now, .land flight (.ok value)) :: h)).session.cache.isStale f.key now = true ∨
      (after setup ((soon, .followUp flight) :: (now, .land flight (.ok value)) :: h)
        ).session.FetchedAnew f.key flight) ↔
      (∀ since, since <:+ later →
        (after setup (since ++ (t, event) :: earlier)).session.cache.contains f.key = true) ∨
      (e.stage = .unfetched ∧ e.isWatched = true ∧ f.epoch ≠ 0) := by
  have hnamed := Setup.wellNamed_of_catalog hcatalog
  have hshares := shares_of_air hnamed hair hshared hcurrent
  have hsound := sound_after hnamed hshares h
  have hcounts := Session.counts_self hcurrent
  have hhere := air_cellAfter hair hcounts
  have hmarks : Overtaken setup f.key flight h ↔
      ∃ mark, lastHit setup f.key h = some mark ∧ flight < mark :=
    overtaken_iff hnamed (by rw [hair]; rfl)
  have hstale := isStale_land_iff hnamed now value hair hshared hcurrent
  have hnewer := fetchedAnew_after_followUp_iff hnamed now soon value hair hshared hcurrent hread
  have hthere := overtaken_iff_there hnamed hshares hsplit hbefore hdeclares hair hcounts hread
  rw [hstale, hnewer, hread, ← hthere]
  constructor
  · intro hkept
    rcases hkept with (hgone | hover) | ⟨hwatched, hepoch⟩
    · cases hgone
    · exact Or.inl hover
    · rcases hsound.flight flight f e hhere hread with hstage | ⟨-, ⟨heq, -⟩ | ⟨-, -, hmark⟩⟩
      · have hfirst : e.epoch = 0 := (hsound.blank e hread hstage).1.2.2.2.1
        exact Or.inr ⟨hstage, hwatched, by omega⟩
      · exact absurd heq.symm hepoch
      · exact Or.inl (hmarks.mpr hmark)
  · intro hkept
    rcases hkept with hover | ⟨hstage, hwatched, hepoch⟩
    · exact Or.inl (Or.inr hover)
    · have hfirst : e.epoch = 0 := (hsound.blank e hread hstage).1.2.2.2.1
      exact Or.inr ⟨hwatched, by omega⟩

/-- A first answer lands and goes out of date, and the next one is under way. -/
def outdated : History :=
  [(150, .query "n" .null), (0, .followUp 0), (0, .land 0 (.ok .null)), (0, .query "n" .null)]

/-- Then the entry is declared stale, dropped, and made anew. -/
def remade : History :=
  [(210, .query "n" .null), (200, .evict loneKey)] ++ (160, .invalidate [.ofKind "T"]) :: outdated

/-- The answer that was under way counts as fresh, and nobody watches. -/
theorem remembered_after_landing_remade :
    ∃ f e, (after lone remade).session.fetches[1]? = some f ∧ f.key = loneKey ∧
      (after lone remade).session.read f.key = some e ∧ e.isWatched = false ∧
      (after lone ((300, .land 1 (.ok .null)) :: remade)).session.cache.isStale loneKey 300 =
        false ∧
      (((after lone ((300, .land 1 (.ok .null)) :: remade)).session.cache.isStale f.key 300 =
          true ∨
          (after lone ((300, .followUp 1) :: (300, .land 1 (.ok .null)) :: remade)
            ).session.FetchedAnew f.key 1) ↔
        (∀ since, since <:+ [(210, .query "n" .null), (200, .evict loneKey)] →
          (after lone (since ++ (160, .invalidate [.ofKind "T"]) :: outdated)
            ).session.cache.contains f.key = true) ∨
        (e.stage = .unfetched ∧ e.isWatched = true ∧ f.epoch ≠ 0)) := by
  have hfacts : ((after lone remade).session.fetches[1]?.map fun f =>
        (f.key, f.generation, f.endpoint.shared)) = some (loneKey, 0, true) ∧
      (after lone remade).session.generation = 0 ∧
      ((after lone remade).session.read loneKey).map Entry.isWatched = some false ∧
      (after lone ((300, .land 1 (.ok .null)) :: remade)).session.cache.isStale loneKey 300 =
        false := by
    decide +kernel
  have hearlier : (after lone outdated).session.flights.nextFlight = 2 ∧
      loneKey ∈ (after lone outdated).declares (.invalidate [.ofKind "T"]) := by
    decide +kernel
  obtain ⟨hflight, hgen, hentry, hfresh⟩ := hfacts
  obtain ⟨hnext, hdeclares⟩ := hearlier
  obtain ⟨f, hair, hf⟩ := Option.map_eq_some_iff.mp hflight
  simp only [Prod.mk.injEq] at hf
  obtain ⟨hkey, hcurrent, hshared⟩ := hf
  obtain ⟨e, hread, hunwatched⟩ := Option.map_eq_some_iff.mp hentry
  have hsuffix : outdated <:+ remade := (List.suffix_cons _ _).trans (List.suffix_append _ _)
  have hbefore : (after lone outdated).session.fetches[1]? = some f :=
    air_suffix (Setup.wellNamed_of_catalog rfl) hsuffix hair (by omega)
  rw [← hkey] at hread hdeclares
  exact ⟨f, e, hair, hkey, hread, hunwatched, hfresh,
    remembered_after_landing_iff rfl 300 300 .null rfl hbefore hdeclares hair hshared
      (hcurrent.trans hgen.symm) hread⟩

end Landing

end QueryCache.Situation
