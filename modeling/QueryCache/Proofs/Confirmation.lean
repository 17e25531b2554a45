import QueryCache.Classroom.Catalog
import QueryCache.Proofs.Declaration
import QueryCache.Proofs.Freshness
/-!
# Confirmed edits and the answers that are older

A write is confirmed while a flight is in the air, and the flight lands.  Its answer may be from
before the write.  What there is against that is the declaration that comes with the confirmation,
and a write declares what it likes.

* `stale_after_confirmation` — where the declaration hits the entry, and the entry stays, the
  answer is stored as stale, and those who watch are fetched for anew.
* `edit_undone_unnoticed` — where it does not, the older answer counts as fresh.  A message that is
  marked as read is an example: the list of messages is edited in place, and what is declared is
  the dashboard.
-/

namespace QueryCache.Situation

variable {setup : Setup} {endpoints : List Endpoint} {h : History} {k : Key}

/-- What a confirmation declares hits the entries by the tags they have then. -/
theorem mem_declares_confirm (hnamed : setup.WellNamed) {write : Nat} {u : Undertaking}
    (hwrite : (after setup h).writes[write]? = some u) (response : Json) :
    k ∈ (after setup h).declares (.confirm write response) ↔
      ∃ e, (after setup h).session.read k = some e ∧
        setup.cascade.Hits (u.mutation.stales u.args response) e.tags := by
  obtain ⟨hsetup, htidy, -⟩ := tidy_after hnamed h
  let s := (after setup h).session
  have hmem : k ∈ (s.invalidate (u.mutation.stales u.args response)).1 ↔ _ :=
    Session.mem_hits_iff (indexed_after hnamed h) htidy.tagging
  -- Settling the edits changes the data of entries, and nothing that declarations look at.
  have hsettled : ((s.settleWrite u.write response).invalidate
      (u.mutation.stales u.args response)).1 =
      (s.invalidate (u.mutation.stales u.args response)).1 := by
    rw [Session.hits_invalidate, Session.hits_invalidate, Session.tagging_settleWrite,
      (Session.leads_settleWrite s u.write response).later.setup]
  rw [hsetup] at hmem
  rw [← hmem]
  simp only [declares, hwrite]
  split
  · rename_i hempty
    rw [hmem, List.isEmpty_iff.mp hempty]
    simp [Cascade.Hits]
  · rw [hsettled]

/-- **A confirmed edit outlives older answers where its write says so.**  A write is confirmed
while a flight is in the air, what it declares hits the entry of the flight's key, and the entry
stays until the flight lands.  Then the answer is stored as stale, and the follow-up has a newer
flight depart for those who watch. -/
theorem stale_after_confirmation (hcatalog : setup.endpoints = Setup.catalog endpoints)
    (now soon : Nat) (value response : Json) {later earlier : History} {t write flight : Nat}
    {f : Fetch} (hsplit : h = later ++ (t, .confirm write response) :: earlier)
    {u : Undertaking} (hwrite : (after setup earlier).writes[write]? = some u)
    (hbefore : (after setup earlier).session.fetches[flight]? = some f)
    {provider : Entry} (hprovider : (after setup earlier).session.read f.key = some provider)
    (hhits : setup.cascade.Hits (u.mutation.stales u.args response) provider.tags)
    (hstays : ∀ since, since <:+ later →
      (after setup (since ++ (t, .confirm write response) :: earlier)).session.cache.contains
        f.key = true)
    (hair : (after setup h).session.fetches[flight]? = some f) (hshared : f.endpoint.shared = true)
    (hcurrent : f.generation = (after setup h).session.generation) :
    (after setup ((now, .land flight (.ok value)) :: h)).session.cache.isStale f.key now = true ∧
      ∀ e, (after setup h).session.read f.key = some e → e.isWatched = true →
        (after setup ((soon, .followUp flight) :: (now, .land flight (.ok value)) :: h)
          ).session.FetchedAnew f.key flight := by
  have hnamed := Setup.wellNamed_of_catalog hcatalog
  have hshares := shares_of_air hnamed hair hshared hcurrent
  have hdeclares : f.key ∈ (after setup earlier).declares (.confirm write response) :=
    (mem_declares_confirm hnamed hwrite response).mpr ⟨provider, hprovider, hhits⟩
  have hover : Overtaken setup f.key flight h :=
    ⟨later, t, .confirm write response, earlier, hsplit, by rw [hbefore]; rfl, hdeclares, hstays⟩
  constructor
  · exact (isStale_land_iff hnamed now value hair hshared hcurrent).mpr (Or.inr hover)
  · intro e hread hwatched
    have hmarked := (overtaken_iff hnamed (by rw [hair]; rfl)).mp hover
    have hepoch : (e.invalidated && e.epoch != f.epoch) = true :=
      ((sound_after hnamed hshares h).stale_iff
        (air_cellAfter hair (Session.counts_self hcurrent)) hread).mpr hmarked
    have hlater : e.epoch ≠ f.epoch := bne_iff_ne.mp (Bool.and_eq_true_iff.mp hepoch).2
    exact (fetchedAnew_after_followUp_iff hnamed now soon value hair hshared hcurrent
      hread).mpr ⟨hwatched, hlater⟩

/-- The client of the classroom server. -/
def classroom : Setup where
  endpoints := Setup.catalog Classroom.endpoints
  cascade := Classroom.cascade
  options := { Options.standard with intervals := Classroom.pollIntervals }
  background := true

/-- The classes, with the only one there is. -/
def roster (name : String) : Json :=
  .arr [.ofFields [("id", .num (.int 1)), ("name", .str name)]]

/-- The classes are being fetched once more when the one there is gets another name. -/
def renamed : History :=
  [(10, .write Classroom.updateClass
      (.ofFields [("id", .num (.int 1)), ("name", .str "b")])
      (Classroom.showUpdatedClass (.num (.int 1)) (.ofFields [("name", .str "b")]))),
    (5, .refetch Classroom.classesKey), (1, .land 0 (.ok (roster "a"))),
    (0, .subscribe "getClasses" .null)]

/-- The class with its old name is stored as stale, and the classes are fetched anew. -/
theorem stale_after_confirmation_renamed :
    ∃ u f provider, (after classroom renamed).writes[1]? = some u ∧
      (after classroom renamed).session.fetches[1]? = some f ∧ f.key = Classroom.classesKey ∧
      (after classroom renamed).session.read f.key = some provider ∧
      classroom.cascade.Hits (u.mutation.stales u.args .null) provider.tags ∧
      (after classroom ((20, .confirm 1 .null) :: renamed)).session.fetches[1]? = some f ∧
      (after classroom ((30, .land 1 (.ok (roster "a"))) :: (20, .confirm 1 .null) :: renamed)
        ).session.cache.isStale f.key 30 = true ∧
      ∀ e, (after classroom ((20, .confirm 1 .null) :: renamed)).session.read f.key = some e →
        e.isWatched = true →
        (after classroom ((30, .followUp 1) :: (30, .land 1 (.ok (roster "a"))) ::
          (20, .confirm 1 .null) :: renamed)).session.FetchedAnew f.key 1 := by
  have hfacts : ((after classroom renamed).session.flights.nextFlight = 2 ∧
      ((after classroom renamed).writes[1]?.map fun u => u.mutation.stales u.args .null) =
        some [.ofId "Class" "1"] ∧
      ((after classroom renamed).session.read Classroom.classesKey).map (fun e =>
        e.tags.contains (.ofId "Class" "1")) = some true) ∧
      ((after classroom ((20, .confirm 1 .null) :: renamed)).session.fetches[1]?.map
        fun f => (f.key, f.generation, f.endpoint.shared)) =
        some (Classroom.classesKey, 0, true) ∧
      (after classroom ((20, .confirm 1 .null) :: renamed)).session.generation = 0 ∧
      (after classroom ((20, .confirm 1 .null) :: renamed)).session.cache.contains
        Classroom.classesKey = true := by
    decide +kernel
  obtain ⟨⟨hnext, hwrite, hentry⟩, hflight, hgen, hthere⟩ := hfacts
  obtain ⟨u, hwrite, hstales⟩ := Option.map_eq_some_iff.mp hwrite
  obtain ⟨provider, hprovider, htags⟩ := Option.map_eq_some_iff.mp hentry
  obtain ⟨f, hair, hf⟩ := Option.map_eq_some_iff.mp hflight
  simp only [Prod.mk.injEq] at hf
  obtain ⟨hkey, hcurrent, hshared⟩ := hf
  have hhits : classroom.cascade.Hits (u.mutation.stales u.args .null) provider.tags := by
    rw [hstales]
    exact ⟨_, List.mem_singleton_self _, _, .refl, _, Std.ExtTreeSet.mem_iff_contains.mpr htags,
      Tag.covers_self _⟩
  have hbefore : (after classroom renamed).session.fetches[1]? = some f :=
    air_suffix (Setup.wellNamed_of_catalog rfl) (List.suffix_cons _ _) hair (by omega)
  rw [← hkey] at hprovider hthere
  refine ⟨u, f, provider, hwrite, hbefore, hkey, hprovider, hhits, hair, ?_⟩
  have hsplit : (20, .confirm 1 .null) :: renamed = [] ++ (20, .confirm 1 .null) :: renamed := rfl
  refine stale_after_confirmation rfl 30 30 (roster "a") .null hsplit hwrite hbefore hprovider
    hhits ?_ hair hshared (hcurrent.trans hgen.symm)
  intro since hsince
  rw [List.suffix_nil.mp hsince]
  exact hthere

/-- An edit of a write that waits for its answer is pending at a key. -/
def EditPending (p : Situation) (write : Nat) (k : Key) : Prop :=
  p.writes[write]?.isSome ∧ ∃ log, p.session.overlays.get? k = some log ∧
    ∃ pending ∈ log.pending, pending.write = write

/-- Whatever a write declares: when an edit of it is confirmed during a flight, and the flight
lands, the key is stale then, or a newer flight of it is in the air once that has been followed
up. -/
def NoticesOlderAnswers (setup : Setup) : Prop :=
  ∀ (h later earlier : History) (t write flight now soon : Nat) (response value : Json)
    (f : Fetch), h = later ++ (t, .confirm write response) :: earlier →
    (∀ event ∈ h, event.2 ≠ .reset) →
    (after setup earlier).EditPending write f.key →
    (after setup earlier).session.fetches[flight]? = some f →
    (after setup h).session.fetches[flight]? = some f → f.endpoint.shared = true →
    (after setup ((now, .land flight (.ok value)) :: h)).session.cache.isStale f.key now = true ∨
      ∃ (newer : Nat) (g : Fetch),
        (after setup ((soon, .followUp flight) :: (now, .land flight (.ok value)) :: h)
          ).session.fetches[newer]? = some g ∧ g.key = f.key ∧ flight < newer

/-- The messages, with the only one there is. -/
def inbox (seen : Bool) : Json :=
  .arr [.ofFields [("id", .num (.int 7)), ("is_read", .bool seen)]]

def inboxKey : Key := .ofCall "getMessages" .null

/-- The messages are polled, and meanwhile the one there is is marked as read. -/
def marked : History :=
  [(30010, .write Classroom.markMessageRead (.ofFields [("id", .num (.int 7))])
      (Classroom.showMessageRead (.num (.int 7)))),
    (30000, .tick inboxKey 0),
    (0, .followUp 0),
    (0, .land 0 (.ok (inbox false))),
    (0, .subscribe "getMessages" .null)]

/-- The poll that departed before the message was marked as read lands after that, with the message
unread, and the list counts as fresh. -/
theorem edit_undone_unnoticed : ¬ NoticesOlderAnswers classroom := by
  intro hnotices
  have hfacts : ((after classroom marked).writes[1]?.isSome = true ∧
      ((after classroom marked).session.overlays.get? inboxKey).map (fun log =>
        log.pending.map PendingEdit.write) = some [1] ∧
      (after classroom marked).session.flights.nextFlight = 2) ∧
      ((after classroom ((30020, .confirm 1 .null) :: marked)).session.fetches[1]?.map
        fun f => (f.key, f.endpoint.shared)) = some (inboxKey, true) ∧
      (after classroom ((30100, .land 1 (.ok (inbox false))) :: (30020, .confirm 1 .null) ::
        marked)).session.cache.isStale inboxKey 30100 = false ∧
      (after classroom ((30100, .followUp 1) :: (30100, .land 1 (.ok (inbox false))) ::
        (30020, .confirm 1 .null) :: marked)).session.fetches.isEmpty = true := by
    decide +kernel
  obtain ⟨⟨hwrite, hlog, hnext⟩, hflight, hfresh, hlanded⟩ := hfacts
  obtain ⟨log, hlog, hwrites⟩ := Option.map_eq_some_iff.mp hlog
  obtain ⟨f, hair, hf⟩ := Option.map_eq_some_iff.mp hflight
  simp only [Prod.mk.injEq] at hf
  obtain ⟨hkey, hshared⟩ := hf
  have hpending : (after classroom marked).EditPending 1 f.key := by
    have hmem : 1 ∈ log.pending.map PendingEdit.write := by simp [hwrites]
    obtain ⟨pending, hpending, hown⟩ := List.mem_map.mp hmem
    rw [hkey]
    exact ⟨hwrite, log, hlog, pending, hpending, hown⟩
  have hbefore : (after classroom marked).session.fetches[1]? = some f :=
    air_suffix (Setup.wellNamed_of_catalog rfl) (List.suffix_cons _ _) hair (by omega)
  have hlost := hnotices _ [] marked 30020 1 1 30100 30100 .null (inbox false) f rfl
    (by simp [marked]) hpending hbefore hair hshared
  rcases hlost with hstale | ⟨newer, g, hg, -⟩
  · rw [hkey] at hstale
    exact absurd (hfresh.symm.trans hstale) (by decide)
  · simp [Std.ExtTreeMap.isEmpty_iff.mp hlanded] at hg

end QueryCache.Situation
