import QueryCache.Proofs.Sight.Basic
/-!
# Departures and landings seen from one key

A flight that departs is seen at its own key, where it opens the window if its callers share it;
the other keys see one more number given away.  The same holds of a flight that lands: its
answer is stored under its key, if no reset has come in between, and the window it had is closed.

What follows a landing is the one place where a declaration made during the flight is answered:
those who watch are fetched for once more if the entry's epoch has moved on
(`fetchedAnew_followUp_iff`).
-/

namespace QueryCache

namespace Flights

/-- Boarding opens a window for its key alone. -/
theorem window?_board (fl : Flights) (k k' : Key) :
    (fl.board k).2.window? k' = if k' = k then some fl.nextFlight else fl.window? k' := by
  unfold board window?
  rw [Std.ExtTreeMap.getElem?_insert]
  by_cases h : k' = k
  · simp [h]
  · simp [h, Ne.symm h]

/-- A landing closes the window of its key, if that is its own. -/
theorem window?_land (fl : Flights) (k : Key) (flight : Nat) (k' : Key) :
    (fl.land k flight).window? k' =
      if k' = k ∧ fl.window? k = some flight then none else fl.window? k' := by
  unfold land
  by_cases hopen : fl.window? k = some flight
  · rw [if_pos hopen]
    unfold window? at *
    rw [Std.ExtTreeMap.getElem?_erase]
    by_cases h : k' = k
    · simp [h, hopen]
    · simp [h, Ne.symm h]
  · simp [hopen]

theorem nextFlight_land (fl : Flights) (k : Key) (flight : Nat) :
    (fl.land k flight).nextFlight = fl.nextFlight := by
  unfold land
  split <;> rfl

end Flights

namespace Session

variable {s s' : Session} {k k' : Key} {landed : Nat → Option Fetch} {hit stored : Option Nat}

/-- An errand is not seen from any key. -/
theorem cell_ask (s : Session) (e : Errand) (k : Key) (landed : Nat → Option Fetch)
    (hit stored : Option Nat) :
    (s.ask e).cell k landed hit stored = s.cell k landed hit stored := by
  unfold ask
  split <;> rfl

/-- A change of an entry is seen at its key and nowhere else. -/
theorem cell_alter (s : Session) (k : Key) (change : Entry → Entry) (k' : Key)
    (landed : Nat → Option Fetch) (hit stored : Option Nat) :
    (s.alter k change).cell k' landed hit stored =
      { s.cell k' landed hit stored with
        entry := if k' = k then (s.read k).map change else s.read k' } :=
  congrArg (fun e => { s.cell k' landed hit stored with entry := e })
    (s.cache.read_write k change k')

/-- A change is seen in the entry of its key. -/
theorem cell_change (s : Session) (k : Key) (change : Entry → Entry) (k' : Key)
    (landed : Nat → Option Fetch) (hit stored : Option Nat) :
    (s.change k change).cell k' landed hit stored =
      { s.cell k' landed hit stored with
        entry := if k' = k then (s.read k).map change else s.read k' } := by
  unfold Session.change
  split
  · exact cell_alter s k change k' landed hit stored
  · rename_i habsent
    have hread : s.read k = none := by
      rw [Cache.contains_eq] at habsent
      simpa [Session.read] using habsent
    rw [hread]
    by_cases h : k' = k
    · subst h
      simp [cell, hread]
    · simp [cell, h]

/-- The session that a flight departs from, with the flight on record. -/
def boarded (s : Session) (endpoint : Endpoint) (f : Fetch) : Session :=
  { s with
    flights := if endpoint.shared then (s.flights.board f.key).2 else s.flights.depart.2
    fetches := s.fetches.insert s.flights.nextFlight f }

/-- A departure boards a flight, begins the fetch of the entry and asks for it to be carried out. -/
theorem depart_eq (s : Session) (k : Key) (endpoint : Endpoint) (args : Json) (epoch : Nat) :
    (s.depart k endpoint args epoch).2 =
      ((s.boarded endpoint ⟨k, endpoint, args, epoch, s.generation⟩).change k
        Entry.beginFetch).ask (.carry s.flights.nextFlight) := by
  unfold Session.depart boarded
  cases endpoint.shared <;> rfl

theorem nextFlight_boarded (s : Session) (endpoint : Endpoint) (f : Fetch) :
    (s.boarded endpoint f).flights.nextFlight = s.flights.nextFlight + 1 := by
  unfold boarded
  cases endpoint.shared <;> rfl

/-- The flight is on record under its number, beside those that were. -/
theorem fetches_boarded (s : Session) (endpoint : Endpoint) (f : Fetch) (n : Nat) :
    (s.boarded endpoint f).fetches[n]? =
      if n = s.flights.nextFlight then some f else s.fetches[n]? := by
  unfold boarded
  rw [Std.ExtTreeMap.getElem?_insert]
  by_cases h : n = s.flights.nextFlight
  · simp [h]
  · simp [h, Ne.symm h]

/-- It has a window at its key if its callers share it. -/
theorem window?_boarded (s : Session) (endpoint : Endpoint) (f : Fetch) (k : Key) :
    (s.boarded endpoint f).flights.window? k =
      if k = f.key ∧ endpoint.shared = true then some s.flights.nextFlight
      else s.flights.window? k := by
  unfold boarded
  cases endpoint.shared with
  | true => simp [Flights.window?_board]
  | false => simp [Flights.depart, Flights.window?]

/-- A change belongs to the same generation. -/
theorem later_change (s : Session) (k : Key) (change : Entry → Entry) :
    s.Later (s.change k change) := by
  unfold Session.change
  split
  · exact .of_same rfl rfl rfl rfl rfl
  · exact .refl s

/-- Boarding belongs to the generation of the flight. -/
theorem later_boarded (s : Session) (endpoint : Endpoint) (f : Fetch)
    (hgen : f.generation = s.generation) : s.Later (s.boarded endpoint f) where
  setup := rfl
  generation := rfl
  next := by rw [nextFlight_boarded]; omega
  fetches := by
    intro n g hg
    rw [fetches_boarded] at hg
    rw [nextFlight_boarded]
    by_cases h : n = s.flights.nextFlight
    · rw [if_pos h] at hg
      cases hg
      exact Or.inr ⟨by omega, by omega, hgen⟩
    · rw [if_neg h] at hg
      exact Or.inl hg
  tagging := id

/-- A departure belongs to the same generation. -/
theorem later_depart (s : Session) (k : Key) (endpoint : Endpoint) (args : Json) (epoch : Nat) :
    s.Later (s.depart k endpoint args epoch).2 := by
  rw [depart_eq]
  exact ((later_boarded s endpoint _ rfl).trans (later_change _ k _)).trans (leads_ask _ _).later

/-- A departure seen at its own key. -/
theorem cell_depart {e : Entry} (hread : s.read k = some e) (endpoint : Endpoint) (args : Json)
    (epoch : Nat) (landed : Nat → Option Fetch) (hit stored : Option Nat) :
    (s.depart k endpoint args epoch).2.cell k landed hit stored =
      (s.cell k landed hit stored).depart e ⟨k, endpoint, args, epoch, s.generation⟩ := by
  rw [depart_eq, cell_ask, cell_change]
  apply Cell.ext
  · have hboarded : (s.boarded endpoint ⟨k, endpoint, args, epoch, s.generation⟩).read k =
        some e := hread
    simp [hboarded, Cell.depart]
  · rfl
  · have hwindow := window?_boarded s endpoint ⟨k, endpoint, args, epoch, s.generation⟩ k
    simpa [Cell.depart, cell] using hwindow
  · funext n
    have hfetches := fetches_boarded s endpoint ⟨k, endpoint, args, epoch, s.generation⟩ n
    simp only [Cell.depart, cell, hfetches]
    by_cases h : n = s.flights.nextFlight
    · simp [h, counts, boarded]
    · rw [if_neg h]
      exact (if_neg h).symm
  · rfl
  · exact nextFlight_boarded _ _ _
  · rfl
  · rfl

/-- A departure seen from another key. -/
theorem cell_depart_ne (hknown : s.Known) (hk : k' ≠ k) (endpoint : Endpoint) (args : Json)
    (epoch : Nat) (landed : Nat → Option Fetch) (hit stored : Option Nat) :
    (s.depart k endpoint args epoch).2.cell k' landed hit stored =
      { s.cell k' landed hit stored with next := s.flights.nextFlight + 1 } := by
  rw [depart_eq, cell_ask, cell_change, if_neg hk]
  apply Cell.ext
  · rfl
  · rfl
  · have hwindow := window?_boarded s endpoint ⟨k, endpoint, args, epoch, s.generation⟩ k'
    simpa [hk, cell] using hwindow
  · funext n
    have hfetches := fetches_boarded s endpoint ⟨k, endpoint, args, epoch, s.generation⟩ n
    simp only [cell, hfetches]
    by_cases h : n = s.flights.nextFlight
    · have hair : (s.cell k' landed hit stored).air n = none := by
        cases hn : (s.cell k' landed hit stored).air n with
        | none => rfl
        | some f =>
            have hlt : n < s.flights.nextFlight := (hknown k' landed hit stored).early n f hn
            omega
      rw [if_pos h]
      refine Eq.trans ?_ hair.symm
      simp [counts, Ne.symm hk]
    · simp only [if_neg h]
      rfl
  · rfl
  · exact nextFlight_boarded _ _ _
  · rfl
  · rfl

/-- After a departure the fetch of the entry has begun. -/
theorem read_depart {e : Entry} (hread : s.read k = some e) (endpoint : Endpoint) (args : Json)
    (epoch : Nat) : (s.depart k endpoint args epoch).2.read k = some e.beginFetch :=
  congrArg Cell.entry (cell_depart hread endpoint args epoch (fun _ => none) none none)

/-- A departure leads on, when no flight that could be shared is in the air. -/
theorem leads_depart (hknown : s.Known) {e : Entry} (hread : s.read k = some e)
    {endpoint : Endpoint} {args : Json} (hserves : s.setup.Serves k endpoint args)
    (hopen : endpoint.shared = true → s.flights.window? k = none) :
    s.Leads (s.depart k endpoint args e.epoch).2 where
  later := later_depart s k endpoint args e.epoch
  kept := by
    intro k' hk'
    by_cases h : k' = k
    · subst h
      rw [read_depart hread]
      rfl
    · have hcell := cell_depart_ne hknown h endpoint args e.epoch (fun _ => none) none none
      have hentry : (s.depart k endpoint args e.epoch).2.read k' = s.read k' :=
        congrArg Cell.entry hcell
      rwa [hentry]
  route := by
    intro k' landed hit stored
    by_cases h : k' = k
    · subst h
      rw [cell_depart hread]
      exact .single (.depart hread rfl hserves hopen)
    · rw [cell_depart_ne hknown h]
      exact .single (.drift (Nat.le_succ _))

/-- A launch joins the flight in the air or departs. -/
theorem launch_cases (s : Session) (k : Key) (endpoint : Endpoint) (args : Json) (epoch : Nat) :
    ((s.launch k endpoint args epoch).2 = s ∧ (s.flights.window? k).isSome) ∨
    ((s.launch k endpoint args epoch).2 = (s.depart k endpoint args epoch).2 ∧
      (endpoint.shared = true → s.flights.window? k = none)) := by
  unfold launch
  cases hshared : endpoint.shared with
  | false => exact Or.inr ⟨rfl, nofun⟩
  | true =>
      cases hwindow : s.flights.window? k with
      | none => exact Or.inr ⟨by simp, fun _ => rfl⟩
      | some flight => exact Or.inl ⟨by simp, rfl⟩

/-- A launch leads on. -/
theorem leads_launch (hknown : s.Known) {e : Entry} (hread : s.read k = some e)
    {endpoint : Endpoint} {args : Json} (hserves : s.setup.Serves k endpoint args) :
    s.Leads (s.launch k endpoint args e.epoch).2 := by
  rcases launch_cases s k endpoint args e.epoch with ⟨hjoin, -⟩ | ⟨hdepart, hopen⟩
  · rw [hjoin]
    exact .refl s
  · rw [hdepart]
    exact leads_depart hknown hread hserves hopen

/-- An entry that is fetched again has a window already, or a flight departs for it. -/
theorem refetch_cases (hknown : s.Known) {e : Entry} (hread : s.read k = some e) :
    (s.refetch k = s ∧ (s.flights.window? k).isSome) ∨
    ∃ endpoint, s.setup.Serves k endpoint e.args ∧
      (endpoint.shared = true → s.flights.window? k = none) ∧
      s.refetch k = (s.depart k endpoint e.args e.epoch).2 := by
  obtain ⟨endpoint, hendpoint, hserves⟩ := hknown.serves hread
  have hlaunch : s.refetch k = (s.launch k endpoint e.args e.epoch).2 := by
    unfold refetch
    simp [hread, hendpoint]
  rw [hlaunch]
  rcases launch_cases s k endpoint e.args e.epoch with ⟨hjoin, hwindow⟩ | ⟨hdepart, hopen⟩
  · exact Or.inl ⟨hjoin, hwindow⟩
  · exact Or.inr ⟨endpoint, hserves, hopen, hdepart⟩

theorem refetch_absent (hread : s.read k = none) : s.refetch k = s := by
  unfold refetch
  rw [hread]

/-- Fetching an entry again leads on. -/
theorem leads_refetch (hknown : s.Known) (k : Key) : s.Leads (s.refetch k) := by
  cases hread : s.read k with
  | none =>
      rw [refetch_absent hread]
      exact .refl s
  | some e =>
      rcases refetch_cases hknown hread with ⟨hjoin, -⟩ | ⟨endpoint, hserves, hopen, hdepart⟩
      · rw [hjoin]
        exact .refl s
      · rw [hdepart]
        exact leads_depart hknown hread hserves hopen

/-- The fetching of one key is seen from another as flight numbers counted up. -/
theorem cell_refetch_ne (hknown : s.Known) (hk : k' ≠ k) :
    ∃ n, s.flights.nextFlight ≤ n ∧ ∀ landed hit stored,
      (s.refetch k).cell k' landed hit stored =
        { s.cell k' landed hit stored with next := n } := by
  cases hread : s.read k with
  | none =>
      rw [refetch_absent hread]
      exact ⟨_, Nat.le_refl _, fun _ _ _ => rfl⟩
  | some e =>
      rcases refetch_cases hknown hread with ⟨hjoin, -⟩ | ⟨endpoint, -, -, hdepart⟩
      · rw [hjoin]
        exact ⟨_, Nat.le_refl _, fun _ _ _ => rfl⟩
      · rw [hdepart]
        exact ⟨_, Nat.le_succ _, cell_depart_ne hknown hk endpoint e.args e.epoch⟩

/-! ## Landing -/

/-- The register of flights without one that has landed. -/
def closed (s : Session) (flight : Nat) (f : Fetch) : Session :=
  { s with flights := s.flights.land f.key flight, fetches := s.fetches.erase flight }

/-- A flight that is closed is off the register, and no other. -/
theorem fetches_closed (s : Session) (flight : Nat) (f : Fetch) (n : Nat) :
    (s.closed flight f).fetches[n]? = if n = flight then none else s.fetches[n]? := by
  unfold closed
  rw [Std.ExtTreeMap.getElem?_erase]
  by_cases h : n = flight
  · simp [h]
  · simp [h, Ne.symm h]

/-- Closing a flight belongs to the same generation. -/
theorem later_closed (s : Session) (flight : Nat) (f : Fetch) : s.Later (s.closed flight f) where
  setup := rfl
  generation := rfl
  next := Nat.le_of_eq (Flights.nextFlight_land _ _ _).symm
  fetches := by
    intro n g hg
    rw [fetches_closed] at hg
    split at hg
    · cases hg
    · exact Or.inl hg
  tagging := id

/-- From its key the closing of a flight is seen as its landing. -/
theorem cell_closed {flight : Nat} {f : Fetch} (hkey : f.key = k) :
    (s.closed flight f).cell k (fun n => if n = flight then some f else landed n) hit stored =
      (s.cell k landed hit stored).close flight f := by
  subst hkey
  apply Cell.ext
  · rfl
  · rfl
  · refine (s.flights.window?_land f.key flight f.key).trans ?_
    by_cases hopen : s.flights.window? f.key = some flight
    · rw [if_pos ⟨rfl, hopen⟩]
      exact (if_pos hopen).symm
    · rw [if_neg fun h => hopen h.2]
      exact (if_neg hopen).symm
  · funext n
    have hfetches := fetches_closed s flight f n
    simp only [Cell.close, cell, hfetches]
    by_cases h : n = flight
    · simp [h]
    · simp only [if_neg h]
      rfl
  · rfl
  · exact Flights.nextFlight_land _ _ _
  · rfl
  · rfl

/-- The landing of a flight that is not in the air at a key is not seen there. -/
theorem cell_closed_ne {flight : Nat} (f : Fetch)
    (hknown : (s.cell k landed hit stored).Known s.setup k)
    (hnone : (s.cell k landed hit stored).air flight = none) :
    (s.closed flight f).cell k landed hit stored = s.cell k landed hit stored := by
  apply Cell.ext
  · rfl
  · rfl
  · refine (s.flights.window?_land f.key flight k).trans (if_neg ?_)
    intro hclosing
    obtain ⟨hkey, hopen⟩ := hclosing
    obtain ⟨g, hg⟩ := hknown.carried flight (hkey ▸ hopen)
    rw [hnone] at hg
    cases hg
  · funext n
    have hfetches := fetches_closed s flight f n
    simp only [cell, hfetches]
    by_cases h : n = flight
    · rw [if_pos h, h]
      exact hnone.symm
    · rw [if_neg h]
      rfl
  · rfl
  · exact Flights.nextFlight_land _ _ _
  · rfl
  · rfl

/-- A landing stores what was brought and closes the flight. -/
theorem land_eq (s : Session) (now flight : Nat) (f : Fetch) (brought : Except Failure Json) :
    (s.land now flight f brought).2 = (match brought with
      | .ok value => (s.store now f value).2
      | .error failure => s.storeFailure f failure).closed flight f := by
  unfold land
  cases brought <;> rfl

/-- What an older generation brings is dropped. -/
theorem store_older {f : Fetch} (hgen : s.generation ≠ f.generation) (now : Nat) (value : Json) :
    (s.store now f value).2 = { s with overlays := (s.overlays.mint value).2 } := by
  unfold store
  simp [hgen]

/-- What the present generation brings is stored under its key, with its tags. -/
theorem store_current {f : Fetch} (hgen : s.generation = f.generation) (now : Nat)
    (value : Json) : (s.store now f value).2 =
      ({ s with
        overlays := ((s.overlays.mint value).2.rebase f.key (s.overlays.mint value).1).2
        tagging := if s.cache.contains f.key then
          s.tagging.index f.key (f.endpoint.tagsOf f.args value) else s.tagging } : Session).change
        f.key fun e =>
          e.load (s.store now f value).1 (f.endpoint.tagsOf f.args value) now f.epoch := by
  have hcurrent : ¬ s.generation ≠ f.generation := fun h => h hgen
  unfold store
  simp only [if_neg hcurrent]
  cases s.cache.contains f.key <;> rfl

/-- Storing an answer belongs to the same generation. -/
theorem later_store (s : Session) (now : Nat) (f : Fetch) (value : Json) :
    s.Later (s.store now f value).2 := by
  by_cases hgen : s.generation = f.generation
  · rw [store_current hgen]
    refine .trans ?_ (later_change _ _ _)
    refine ⟨rfl, rfl, Nat.le_refl _, fun _ _ hf => Or.inl hf, fun h => ?_⟩
    simp only
    split
    · exact h.index _ _
    · exact h
  · rw [store_older hgen]
    exact .of_same rfl rfl rfl rfl rfl

/-- From its key the entry is seen to load the answer. -/
theorem cell_store {f : Fetch} (hgen : s.generation = f.generation) (hkey : f.key = k)
    (now : Nat) (value : Json) (landed : Nat → Option Fetch) (hit stored : Option Nat) :
    (s.store now f value).2.cell k landed hit stored =
      { s.cell k landed hit stored with
        entry := (s.read k).map fun e =>
          e.load (s.store now f value).1 (f.endpoint.tagsOf f.args value) now f.epoch
        tags := if (s.read k).isSome then f.endpoint.tagsOf f.args value
          else s.tagging.tagsOf k } := by
  subst hkey
  have hpresent : s.cache.contains f.key = (s.read f.key).isSome := s.cache.contains_eq f.key
  rw [store_current hgen, cell_change, if_pos rfl]
  apply Cell.ext
  · rfl
  · simp only [cell, hpresent]
    split
    · rw [Tagging.tagsOf_index, if_pos rfl]
    · rfl
  all_goals rfl

/-- Where the flight does not count, nothing is seen of its answer. -/
theorem cell_store_ne {f : Fetch} (hcounts : s.counts k f = false) (now : Nat) (value : Json)
    (landed : Nat → Option Fetch) (hit stored : Option Nat) :
    (s.store now f value).2.cell k landed hit stored = s.cell k landed hit stored := by
  by_cases hgen : s.generation = f.generation
  · have hkey : k ≠ f.key := by
      intro heq
      subst heq
      simp [counts, hgen] at hcounts
    rw [store_current hgen, cell_change, if_neg hkey]
    apply Cell.ext
    · rfl
    · simp only [cell]
      split
      · rw [Tagging.tagsOf_index, if_neg hkey]
      · rfl
    all_goals rfl
  · rw [store_older hgen]
    rfl

/-- A failure from before a reset is not stored. -/
theorem storeFailure_older {f : Fetch} (hgen : s.generation ≠ f.generation) (failure : Failure) :
    s.storeFailure f failure = s := by
  unfold storeFailure
  simp [hgen]

/-- A failure that counts is stored and announced. -/
theorem storeFailure_current {f : Fetch} (hgen : s.generation = f.generation)
    (failure : Failure) : s.storeFailure f failure =
      { s.change f.key fun e => e.fail failure with
        notices := ((s.change f.key fun e => e.fail failure).notices.announce failure).2 } := by
  have hcurrent : ¬ s.generation ≠ f.generation := fun h => h hgen
  unfold storeFailure
  rw [if_neg hcurrent]

/-- Storing a failure belongs to the same generation. -/
theorem later_storeFailure (s : Session) (f : Fetch) (failure : Failure) :
    s.Later (s.storeFailure f failure) := by
  by_cases hgen : s.generation = f.generation
  · rw [storeFailure_current hgen]
    refine (later_change s f.key fun e => e.fail failure).trans ?_
    exact .of_same rfl rfl rfl rfl rfl
  · rw [storeFailure_older hgen]
    exact .refl s

/-- From its key the entry is seen to fail. -/
theorem cell_storeFailure {f : Fetch} (hgen : s.generation = f.generation) (hkey : f.key = k)
    (failure : Failure) (landed : Nat → Option Fetch) (hit stored : Option Nat) :
    (s.storeFailure f failure).cell k landed hit stored =
      { s.cell k landed hit stored with entry := (s.read k).map fun e => e.fail failure } := by
  subst hkey
  have hchange := cell_change s f.key (fun e => e.fail failure) f.key landed hit stored
  rw [if_pos rfl] at hchange
  rw [storeFailure_current hgen]
  exact hchange

/-- Where the flight does not count, nothing is seen of its failure. -/
theorem cell_storeFailure_ne {f : Fetch} (hcounts : s.counts k f = false) (failure : Failure)
    (landed : Nat → Option Fetch) (hit stored : Option Nat) :
    (s.storeFailure f failure).cell k landed hit stored = s.cell k landed hit stored := by
  by_cases hgen : s.generation = f.generation
  · have hkey : k ≠ f.key := by
      intro heq
      subst heq
      simp [counts, hgen] at hcounts
    have hchange := cell_change s f.key (fun e => e.fail failure) k landed hit stored
    rw [if_neg hkey] at hchange
    rw [storeFailure_current hgen]
    exact hchange
  · rw [storeFailure_older hgen]

/-- A follow-up leads on. -/
theorem leads_followUp (hknown : s.Known) (f : Fetch) : s.Leads (s.followUp f) := by
  unfold followUp
  split
  · exact .refl s
  · split
    · split
      · exact leads_refetch hknown f.key
      · exact .refl s
    · exact .refl s

/-- After the follow-up of a flight that was overtaken, whoever watches the entry is cared
for. -/
theorem followUp_done (hknown : s.Known) {f : Fetch} (hgen : s.generation = f.generation)
    {e : Entry} (hread : (s.followUp f).read f.key = some e) (hepoch : e.epoch ≠ f.epoch)
    (hwatched : e.isWatched = true) :
    e.stage = .fetching ∨ ((s.followUp f).flights.window? f.key).isSome := by
  have hcurrent : ¬ s.generation ≠ f.generation := fun h => h hgen
  unfold followUp at *
  rw [if_neg hcurrent] at *
  cases hbefore : s.read f.key with
  | none =>
      simp only [hbefore] at hread
      cases hread
  | some e₀ =>
      simp only [hbefore] at hread ⊢
      by_cases hdue : (e₀.epoch ≠ f.epoch && e₀.isWatched && !e₀.isFetching) = true
      · rw [if_pos hdue] at hread ⊢
        rcases refetch_cases hknown hbefore with ⟨hjoin, hwindow⟩ | ⟨endpoint, -, -, hdepart⟩
        · exact Or.inr (by rwa [hjoin])
        · rw [hdepart, read_depart hbefore] at hread
          cases hread
          exact Or.inl rfl
      · rw [if_neg hdue] at hread
        obtain rfl : e₀ = e := Option.some.inj (hbefore.symm.trans hread)
        left
        simpa [hepoch, hwatched, Entry.isFetching] using hdue

/-- Somebody watches the entry, and a flight newer than that one is under way for it. -/
def FetchedAnew (s : Session) (k : Key) (flight : Nat) : Prop :=
  ∃ e newer, s.read k = some e ∧ e.isWatched = true ∧ s.flights.window? k = some newer ∧
    flight < newer

/-- A follow-up has a newer flight depart exactly for those who watch an entry of another
epoch. -/
theorem fetchedAnew_followUp_iff (hknown : s.Known) {f : Fetch} (hshares : s.setup.Shares f.key)
    (hgen : s.generation = f.generation) {e : Entry} (hread : s.read f.key = some e)
    (hstage : e.stage ≠ .fetching) (hclosed : s.flights.window? f.key = none) {flight : Nat}
    (hflight : flight < s.flights.nextFlight) :
    (s.followUp f).FetchedAnew f.key flight ↔ e.isWatched = true ∧ e.epoch ≠ f.epoch := by
  have hcurrent : ¬ s.generation ≠ f.generation := fun h => h hgen
  have hfollowUp : s.followUp f =
      if e.isWatched = true ∧ e.epoch ≠ f.epoch then s.refetch f.key else s := by
    have hidle : e.isFetching = false := by simp [Entry.isFetching, hstage]
    unfold followUp
    simp only [if_neg hcurrent, hread, hidle, Bool.not_false, Bool.and_true]
    simp only [Bool.and_eq_true, decide_eq_true_eq, and_comm]
  rw [hfollowUp]
  by_cases hdue : e.isWatched = true ∧ e.epoch ≠ f.epoch
  · rw [if_pos hdue]
    refine ⟨fun _ => hdue, fun _ => ?_⟩
    rcases refetch_cases hknown hread with ⟨-, hopen⟩ | ⟨endpoint, hserves, -, hdepart⟩
    · rw [hclosed] at hopen
      cases hopen
    · have hshared : endpoint.shared = true := hshares endpoint e.args hserves
      have hwindow : (s.depart f.key endpoint e.args e.epoch).2.flights.window? f.key =
          if endpoint.shared then some s.flights.nextFlight else s.flights.window? f.key :=
        congrArg Cell.window (cell_depart hread endpoint e.args e.epoch (fun _ => none) none none)
      rw [hshared, if_pos rfl] at hwindow
      rw [hdepart]
      exact ⟨e.beginFetch, _, read_depart hread endpoint e.args e.epoch, hdue.1, hwindow, hflight⟩
  · rw [if_neg hdue]
    refine ⟨?_, fun h => absurd h hdue⟩
    intro hanew
    obtain ⟨e', newer, -, -, hwindow, -⟩ := hanew
    rw [hclosed] at hwindow
    cases hwindow

section Land

variable {now flight : Nat} {f : Fetch}

/-- A landing belongs to the same generation. -/
theorem later_land (s : Session) (now flight : Nat) (f : Fetch) (brought : Except Failure Json) :
    s.Later (s.land now flight f brought).2 := by
  rw [land_eq]
  refine .trans ?_ (later_closed _ flight f)
  cases brought with
  | ok value => exact later_store s now f value
  | error failure => exact later_storeFailure s f failure

/-- A flight that has landed is in the air no longer. -/
theorem fetches_land (s : Session) (now flight : Nat) (f : Fetch) (brought : Except Failure Json) :
    (s.land now flight f brought).2.fetches[flight]? = none := by
  rw [land_eq, fetches_closed, if_pos rfl]

/-- A landing is not seen from another key, and not seen at all after a reset. -/
theorem cell_land_ne (hknown : s.Known) (hair : s.fetches[flight]? = some f)
    (hcounts : s.counts k f = false) (brought : Except Failure Json)
    (landed : Nat → Option Fetch) (hit stored : Option Nat) :
    (s.land now flight f brought).2.cell k landed hit stored = s.cell k landed hit stored := by
  have hnone : (s.cell k landed hit stored).air flight = none := by
    simp [cell, hair, hcounts]
  have hhere := hknown k landed hit stored
  rw [land_eq]
  cases brought with
  | ok value =>
      have hcell := cell_store_ne hcounts now value landed hit stored
      have hsetup := (later_store s now f value).setup
      rw [← hcell] at hnone hhere
      rw [← hsetup] at hhere
      exact (cell_closed_ne f hhere hnone).trans hcell
  | error failure =>
      have hcell := cell_storeFailure_ne hcounts failure landed hit stored
      have hsetup := (later_storeFailure s f failure).setup
      rw [← hcell] at hnone hhere
      rw [← hsetup] at hhere
      exact (cell_closed_ne f hhere hnone).trans hcell

/-- What a success looks like where it counts. -/
theorem step_land_ok (hair : s.fetches[flight]? = some f) (hcounts : s.counts k f = true)
    (value : Json) : Cell.Step s.setup k (s.cell k landed hit stored)
      ((s.land now flight f (.ok value)).2.cell k (fun n => if n = flight then some f else landed n)
        hit (if (s.read k).isSome then some flight else stored)) := by
  have hhere : (s.cell k landed hit stored).air flight = some f := by
    simp [cell, hair, hcounts]
  obtain ⟨hkey, hgen⟩ : f.key = k ∧ f.generation = s.generation := by
    simpa [counts] using hcounts
  rw [land_eq]
  simp only
  rw [cell_closed hkey, cell_store hgen.symm hkey]
  cases hread : s.read k with
  | none =>
      have hclosed : ({ s.cell k landed hit stored with entry := none } : Cell).close flight f =
          (s.cell k landed hit stored).close flight f := by rw [← hread]; rfl
      exact hclosed ▸ .miss hhere hread
  | some e => exact .load hhere hread

/-- What a failure looks like where it counts. -/
theorem step_land_error (hair : s.fetches[flight]? = some f) (hcounts : s.counts k f = true)
    (failure : Failure) : Cell.Step s.setup k (s.cell k landed hit stored)
      ((s.land now flight f (.error failure)).2.cell k
        (fun n => if n = flight then some f else landed n) hit stored) := by
  have hhere : (s.cell k landed hit stored).air flight = some f := by
    simp [cell, hair, hcounts]
  obtain ⟨hkey, hgen⟩ : f.key = k ∧ f.generation = s.generation := by
    simpa [counts] using hcounts
  rw [land_eq]
  simp only
  rw [cell_closed hkey, cell_storeFailure hgen.symm hkey]
  cases hread : s.read k with
  | none =>
      have hclosed : ({ s.cell k landed hit stored with entry := none } : Cell).close flight f =
          (s.cell k landed hit stored).close flight f := by rw [← hread]; rfl
      exact hclosed ▸ .miss hhere hread
  | some e => exact .fail hhere hread

/-- The entry after a success that counts. -/
theorem read_land_ok (hgen : s.generation = f.generation) (now flight : Nat) (value : Json) :
    (s.land now flight f (.ok value)).2.read f.key = (s.read f.key).map fun e =>
      e.load (s.store now f value).1 (f.endpoint.tagsOf f.args value) now f.epoch := by
  rw [land_eq]
  exact congrArg Cell.entry (cell_store hgen rfl now value (fun _ => none) none none)

/-- The window after a success that counts. -/
theorem window?_land_ok (hgen : s.generation = f.generation)
    (hopen : s.flights.window? f.key = some flight) (now : Nat) (value : Json) :
    (s.land now flight f (.ok value)).2.flights.window? f.key = none := by
  have hstored : (s.store now f value).2.flights.window? f.key = s.flights.window? f.key :=
    congrArg Cell.window (cell_store hgen rfl now value (fun _ => none) none none)
  rw [land_eq]
  refine (Flights.window?_land _ f.key flight f.key).trans (if_pos ⟨rfl, ?_⟩)
  rw [hstored, hopen]

/-- No entry comes or goes with a landing. -/
theorem present_land (hknown : s.Known) (hair : s.fetches[flight]? = some f)
    (brought : Except Failure Json) (k : Key) :
    ((s.land now flight f brought).2.read k).isSome = (s.read k).isSome := by
  cases hcounts : s.counts k f with
  | false =>
      exact congrArg (fun c => c.entry.isSome)
        (cell_land_ne hknown hair hcounts brought (fun _ => none) none none)
  | true =>
      obtain ⟨hkey, hgen⟩ : f.key = k ∧ f.generation = s.generation := by
        simpa [counts] using hcounts
      rw [land_eq]
      cases brought with
      | ok value =>
          have hcell := cell_store hgen.symm hkey now value (fun _ => none) none none
          have hentry : (s.store now f value).2.read k = _ := congrArg Cell.entry hcell
          change ((s.store now f value).2.read k).isSome = _
          rw [hentry, Option.isSome_map]
      | error failure =>
          have hcell := cell_storeFailure hgen.symm hkey failure (fun _ => none) none none
          have hentry : (s.storeFailure f failure).read k = _ := congrArg Cell.entry hcell
          change ((s.storeFailure f failure).read k).isSome = _
          rw [hentry, Option.isSome_map]

end Land

end Session

end QueryCache
