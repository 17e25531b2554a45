import QueryCache.Proofs.Course
/-!
# Declarations that overtake a flight

A declaration overtakes a flight if it hits the entry while the flight is in the air, and it
counts as long as that entry is there.  The marks of a history tell the same in numbers
(`overtaken_iff`).

Which entries a declaration hits is told by the tags on record, that is by the last answer
stored (`mem_declares_invalidate`); the answer that is under way has no say in it.  And an entry
made anew while a flight is in the air joins that flight and knows of no declaration before
(`unfetched_since`).
-/

namespace QueryCache.Situation

variable {setup : Setup} {k : Key} {flight : Nat} {h : History}

/-- While the flight was in the air an event declared the key stale, and the entry it hit is
still there. -/
def Overtaken (setup : Setup) (k : Key) (flight : Nat) (h : History) : Prop :=
  ∃ later t e earlier, h = later ++ (t, e) :: earlier ∧
    (after setup earlier).session.fetches[flight]?.isSome ∧
    k ∈ (after setup earlier).declares e ∧
    ∀ since, since <:+ later →
      (after setup (since ++ (t, e) :: earlier)).session.cache.contains k = true

/-- A declaration hits what provides, by the last answer stored, a tag that it reaches. -/
theorem mem_declares_invalidate (hnamed : setup.WellNamed) (tags : List Tag) :
    k ∈ (after setup h).declares (.invalidate tags) ↔
      ∃ t ∈ setup.cascade.reach tags, ∃ p ∈ (after setup h).session.tagging.tagsOf k,
        t.covers p = true := by
  obtain ⟨hsetup, htidy, -⟩ := tidy_after hnamed h
  rw [declares, Session.hits_invalidate, Tagging.mem_keysFor htidy.tagging, hsetup]

/-- A flight has been overtaken after an event if the entry is there, and either it had been
overtaken before, or it is in the air and the event declares its key stale. -/
theorem overtaken_cons (t : Nat) (e : Event) :
    Overtaken setup k flight ((t, e) :: h) ↔
      (after setup ((t, e) :: h)).session.cache.contains k = true ∧
        (((after setup h).session.fetches[flight]?.isSome ∧
          k ∈ (after setup h).declares e) ∨ Overtaken setup k flight h) := by
  constructor
  · intro hover
    obtain ⟨later, t', e', earlier, hsplit, hair, hdeclares, hthere⟩ := hover
    cases later with
    | nil =>
        rw [List.nil_append] at hsplit
        cases hsplit
        exact ⟨hthere [] List.suffix_rfl, Or.inl ⟨hair, hdeclares⟩⟩
    | cons event later =>
        rw [List.cons_append] at hsplit
        injection hsplit with hhead htail
        refine ⟨?_, Or.inr ⟨later, t', e', earlier, htail, hair, hdeclares, fun since hsince =>
          hthere since (hsince.trans (List.suffix_cons event later))⟩⟩
        have hall := hthere (event :: later) List.suffix_rfl
        rwa [List.cons_append, ← hhead, ← htail] at hall
  · intro hover
    obtain ⟨hpresent, ⟨hair, hdeclares⟩ | hbefore⟩ := hover
    · refine ⟨[], t, e, h, rfl, hair, hdeclares, fun since hsince => ?_⟩
      rw [List.suffix_nil.mp hsince]
      exact hpresent
    · obtain ⟨later, t', e', earlier, hsplit, hair, hdeclares, hthere⟩ := hbefore
      refine ⟨(t, e) :: later, t', e', earlier, by rw [hsplit]; rfl, hair, hdeclares,
        fun since hsince => ?_⟩
      rcases List.suffix_cons_iff.mp hsince with rfl | hsince
      · rwa [List.cons_append, ← hsplit]
      · exact hthere since hsince

/-- What one event does to the register of flights. -/
theorem flights_step (hnamed : setup.WellNamed) (h : History) (t : Nat) (e : Event) :
    (after setup h).session.flights.nextFlight ≤
        (after setup ((t, e) :: h)).session.flights.nextFlight ∧
      ∀ n f, (after setup ((t, e) :: h)).session.fetches[n]? = some f →
        (after setup h).session.fetches[n]? = some f ∨
          (after setup h).session.flights.nextFlight ≤ n := by
  obtain ⟨hsetup, htidy, hknown⟩ := tidy_after hnamed h
  have hpasses := passes_step (by rw [hsetup]; exact hnamed) hknown htidy t e
  exact ⟨hpasses.next, hpasses.fetches⟩

/-- A mark is not ahead of the flights. -/
theorem lastHit_le (hnamed : setup.WellNamed) {mark : Nat} (hmark : lastHit setup k h = some mark) :
    mark ≤ (after setup h).session.flights.nextFlight := by
  induction h with
  | nil => cases hmark
  | cons event h ih =>
      obtain ⟨t, e⟩ := event
      have hnext := (flights_step hnamed h t e).1
      rw [lastHit] at hmark
      split at hmark
      · split at hmark
        · cases hmark
          exact hnext
        · exact Nat.le_trans (ih hmark) hnext
      · cases hmark

/-- A flight that was overtaken had departed. -/
theorem Overtaken.departed (hnamed : setup.WellNamed) (hover : Overtaken setup k flight h) :
    flight < (after setup h).session.flights.nextFlight := by
  induction h with
  | nil =>
      obtain ⟨later, t, e, earlier, hsplit, -⟩ := hover
      cases later <;> cases hsplit
  | cons event h ih =>
      obtain ⟨t, e⟩ := event
      have hnext := (flights_step hnamed h t e).1
      rcases ((overtaken_cons t e).mp hover).2 with ⟨hair, -⟩ | hbefore
      · obtain ⟨f, hf⟩ := Option.isSome_iff_exists.mp hair
        have := ((tidy_after hnamed h).2.1.air flight f hf).1
        omega
      · have := ih hbefore
        omega

/-- **A flight in the air is overtaken exactly if it is older than the last mark.** -/
theorem overtaken_iff (hnamed : setup.WellNamed)
    (hair : (after setup h).session.fetches[flight]?.isSome) :
    Overtaken setup k flight h ↔ ∃ mark, lastHit setup k h = some mark ∧ flight < mark := by
  induction h with
  | nil => simp [after, start, Session.start] at hair
  | cons event h ih =>
      obtain ⟨t, e⟩ := event
      obtain ⟨f, hf⟩ := Option.isSome_iff_exists.mp hair
      have hbefore : (after setup h).session.fetches[flight]?.isSome ↔
          flight < (after setup h).session.flights.nextFlight := by
        constructor
        · intro hsome
          obtain ⟨g, hg⟩ := Option.isSome_iff_exists.mp hsome
          exact ((tidy_after hnamed h).2.1.air flight g hg).1
        · intro hlt
          rcases (flights_step hnamed h t e).2 flight f hf with hold | hnew
          · rw [hold]
            rfl
          · omega
      rw [overtaken_cons, lastHit]
      by_cases hpresent : (after setup ((t, e) :: h)).session.cache.contains k = true
      · have hpresent' : ((after setup h).step t e).session.cache.contains k = true := hpresent
        rw [if_pos hpresent']
        by_cases hdeclares : k ∈ (after setup h).declares e
        · simp only [hpresent, hdeclares, if_true, true_and, and_true, hbefore,
            Option.some.injEq, exists_eq_left']
          exact ⟨fun hcases => hcases.elim id fun hover => hover.departed hnamed, Or.inl⟩
        · simp only [hpresent, hdeclares, if_false, true_and, and_false, false_or]
          by_cases hold : (after setup h).session.fetches[flight]?.isSome
          · exact ih hold
          · have hlate : ¬ flight < (after setup h).session.flights.nextFlight :=
              fun hlt => hold (hbefore.mpr hlt)
            constructor
            · exact fun hover => absurd (hover.departed hnamed) hlate
            · intro hmarked
              obtain ⟨mark, hmark, hlt⟩ := hmarked
              exact absurd (Nat.lt_of_lt_of_le hlt (lastHit_le hnamed hmark)) hlate
      · have habsent : ¬ ((after setup h).step t e).session.cache.contains k = true := hpresent
        rw [if_neg habsent]
        simp [hpresent]

/-- Between two moments of a history lies a chain of steps. -/
theorem chain_suffix (hnamed : setup.WellNamed) (k : Key) {mid : History} (hsuffix : mid <:+ h) :
    Relation.ReflTransGen (Cell.Step setup k) (cellAfter setup k mid) (cellAfter setup k h) := by
  obtain ⟨later, rfl⟩ := hsuffix
  induction later with
  | nil => exact .refl
  | cons event later ih => exact ih.trans (chain_after hnamed k event.1 event.2 (later ++ mid))

/-- Flights are only counted up. -/
theorem nextFlight_suffix (hnamed : setup.WellNamed) {mid : History} (hsuffix : mid <:+ h) :
    (after setup mid).session.flights.nextFlight ≤ (after setup h).session.flights.nextFlight := by
  obtain ⟨later, rfl⟩ := hsuffix
  induction later with
  | nil => exact Nat.le_refl _
  | cons event later ih => exact Nat.le_trans ih (flights_step hnamed _ event.1 event.2).1

/-- What is in the air has been so ever since it departed. -/
theorem air_suffix (hnamed : setup.WellNamed) {mid : History} (hsuffix : mid <:+ h) {f : Fetch}
    (hair : (after setup h).session.fetches[flight]? = some f)
    (hdeparted : flight < (after setup mid).session.flights.nextFlight) :
    (after setup mid).session.fetches[flight]? = some f := by
  obtain ⟨later, rfl⟩ := hsuffix
  induction later with
  | nil => exact hair
  | cons event later ih =>
      rcases (flights_step hnamed (later ++ mid) event.1 event.2).2 flight f hair with hold | hnew
      · exact ih hold
      · have hnext := nextFlight_suffix hnamed (List.suffix_append later mid)
        omega

/-- A flight that lands is in the air no longer. -/
theorem gone_land {f : Fetch} (hair : (after setup h).session.fetches[flight]? = some f) (now : Nat)
    (brought : Except Failure Json) :
    (after setup ((now, .land flight brought) :: h)).session.fetches[flight]? = none := by
  simp only [after, step, hair]
  exact Session.fetches_land _ now flight f brought

/-- An entry that was absent when the flight was in the air already, and is there again before it
lands, knows of no answer. -/
theorem unfetched_since (hnamed : setup.WellNamed) (hshares : setup.Shares k) {mid : History}
    (hsuffix : mid <:+ h) (habsent : (after setup mid).session.read k = none)
    (hdeparted : flight < (after setup mid).session.flights.nextFlight) {f : Fetch}
    (hair : (after setup h).session.fetches[flight]? = some f)
    (hcounts : (after setup h).session.counts k f = true) {e : Entry}
    (hread : (after setup h).session.read k = some e) : e.stage = .unfetched := by
  have hstart : (cellAfter setup k mid).Unanswered flight :=
    ⟨hdeparted, fun _ _ _ he => by cases habsent.symm.trans he⟩
  have hend := hstart.chain hshares (known_cellAfter hnamed k mid)
    (sound_after hnamed hshares mid) (chain_suffix hnamed k hsuffix)
  exact hend.2 f e (air_cellAfter hair hcounts) hread

end QueryCache.Situation
