import QueryCache.Proofs.Declaration
/-!
# What an entry was answered

An entry has the tags of the answer it was given last, and no other; and it has been fetched if and
only if it was given one.  Which answer that is, a history tells by itself (`lastAnswer`): the last
one brought for the key by a fetch that counted there, as long as the entry has stayed since.

Between two answers nothing happens at a key that concerns the tags of its entry or the time of its
last fetch (`Cell.sourced_step`).  That there is no answer in between is told by the mark of the
flight that was stored last.  For the proof it is set to a number that no flight has; if it is found
unchanged, no answer has been stored.
-/

namespace QueryCache

namespace Cell

/-- The tags of the entry, and when it was fetched.  An absent one is as good as one just made. -/
def source (c : Cell) : TagSet × Option Nat :=
  (c.entry.map fun e => (e.tags, e.fetchedAt)).getD (∅, none)

variable {setup : Setup} {k : Key} {c c' : Cell} {mark : Option Nat} {origin : TagSet × Option Nat}

/-- Flight numbers are only counted up. -/
theorem next_le_of_step (hstep : Step setup k c c') : c.next ≤ c'.next := by
  cases hstep with
  | drift hn => exact hn
  | depart => exact Nat.le_succ _
  | strikeAndDepart hentry htags hn => exact Nat.le_succ_of_le hn
  | _ => exact Nat.le_refl _

/-- As long as the mark is this one, which is no flight's, the entry is what it was. -/
theorem source_step (hknown : c.Known setup k) (hlate : ∀ n, mark = some n → c'.next ≤ n)
    (hfirst : mark = none → origin = (∅, none)) (h : c.stored = mark → c.source = origin)
    (hstep : Step setup k c c') (hmark : c'.stored = mark) : c'.source = origin := by
  have hbefore := next_le_of_step hstep
  cases hstep with
  | drift hn => exact h hmark
  | make hnone hblank hunwatched hlists hkey =>
      obtain ⟨-, hat, -, -, htags⟩ := hblank
      rw [← h hmark]
      simp only [source, hnone, Option.map_some, Option.map_none, Option.getD_some,
        Option.getD_none, htags, hat]
  | turn hentry halike hwatch =>
      rw [← h hmark, halike]
      simp only [source, hentry, Option.map_some]
  | depart hentry hepoch hserves hopen =>
      rw [← h hmark]
      simp only [source, Cell.depart, hentry, Option.map_some, Entry.beginFetch]
  | strike hentry htags hidle =>
      rw [← h hmark]
      simp only [source, Cell.strike, hentry, Option.map_some, Entry.invalidate]
  | strikeAndDepart hentry htags hn hepoch hserves hopen =>
      rw [← h hmark]
      simp only [source, Cell.strike, Cell.depart, hentry, Option.map_some, Entry.invalidate,
        Entry.beginFetch]
  | load hair hentry =>
      have hflight := hlate _ hmark.symm
      have hearly := hknown.early _ _ hair
      omega
  | fail hair hentry =>
      rw [← h hmark]
      simp only [source, hentry, Option.map_some, Entry.fail]
  | miss hair hnone => exact h hmark
  | settle hlanded hdone => exact h hmark
  | drop hentry hunwatched => exact (hfirst hmark.symm).symm
  | clear => exact (hfirst hmark.symm).symm

/-- As long as no answer is stored, tags and time of fetch stay those of the origin. -/
theorem source_chain (hknown : c.Known setup k) (hlate : ∀ n, mark = some n → c'.next ≤ n)
    (hfirst : mark = none → origin = (∅, none)) (h : c.stored = mark → c.source = origin)
    (hchain : Relation.ReflTransGen (Step setup k) c c') (hmark : c'.stored = mark) :
    c'.source = origin := by
  induction hchain with
  | refl => exact h hmark
  | tail hfront hstep ih =>
      have hlate' := fun n hn => Nat.le_trans (next_le_of_step hstep) (hlate n hn)
      exact source_step (hknown.chain hfront) hlate hfirst (ih hlate') hstep hmark

end Cell

namespace Situation

variable {setup : Setup} {h : History} {k : Key} {p : Situation}

/-- The answer that an event stores under a key, with the fetch that brings it. -/
def answers (p : Situation) (k : Key) : Event → Option (Fetch × Json)
  | .land flight (.ok value) => match p.session.fetches[flight]? with
    | some f => if p.session.counts k f then some (f, value) else none
    | none => none
  | _ => none

/-- The answer that was stored last in the present entry. -/
def lastAnswer (setup : Setup) (k : Key) : History → Option (Fetch × Json)
  | [] => none
  | (now, e) :: h =>
    if ((after setup h).step now e).session.cache.contains k then
      match (after setup h).answers k e with
      | some answer => some answer
      | none => lastAnswer setup k h
    else none

/-- The tags of the entry at a key, and when it was fetched. -/
def sourceAt (p : Situation) (k : Key) : TagSet × Option Nat := (p.cell k none none).source

/-- The source of an entry that is there. -/
theorem sourceAt_of_read {e : Entry} (hread : p.session.read k = some e) :
    p.sourceAt k = (e.tags, e.fetchedAt) := by
  simp only [sourceAt, cell, Session.cell, Cell.source, hread, Option.map_some, Option.getD_some]

/-- The source where there is no entry. -/
theorem sourceAt_of_absent (hread : p.session.read k = none) : p.sourceAt k = (∅, none) := by
  simp only [sourceAt, cell, Session.cell, Cell.source, hread, Option.map_none, Option.getD_none]

/-- What an answer, or the lack of one, leaves of itself in the entry of a key. -/
inductive Sources (setup : Setup) (k : Key) :
    Option (Fetch × Json) → TagSet × Option Nat → Prop
  | nothing : Sources setup k none (∅, none)
  | answer {f : Fetch} (hserves : setup.Serves k f.endpoint f.args) (value : Json) (now : Nat) :
      Sources setup k (some (f, value)) (f.endpoint.tagsOf f.args value, some now)

/-- What stores no answer is no landing that the history marks. -/
theorem stores_of_answers {e : Event} (hnone : p.answers k e = none) : p.stores k e = none := by
  unfold answers at hnone
  unfold stores
  split
  · rename_i flight value
    cases hair : p.session.fetches[flight]? with
    | none => rfl
    | some f =>
        simp only [hair, ite_eq_right_iff, reduceCtorEq, imp_false] at hnone
        simp only [if_neg hnone]
  · rfl

/-- Only a landing that counts and has brought a value stores an answer. -/
theorem land_of_answers {e : Event} {f : Fetch} {value : Json}
    (hanswers : p.answers k e = some (f, value)) : ∃ flight, e = .land flight (.ok value) ∧
      p.session.fetches[flight]? = some f ∧ p.session.counts k f = true := by
  unfold answers at hanswers
  split at hanswers
  · rename_i flight found
    cases hair : p.session.fetches[flight]? with
    | none => simp [hair] at hanswers
    | some g =>
        simp only [hair, Option.ite_none_right_eq_some, Option.some.injEq, Prod.mk.injEq]
          at hanswers
        obtain ⟨hcounts, rfl, rfl⟩ := hanswers
        exact ⟨flight, rfl, hair, hcounts⟩
  · cases hanswers

/-- As long as no answer is stored, the entry keeps what it has of the last one. -/
theorem sourceAt_kept (hnamed : setup.WellNamed) {now : Nat} {e : Event}
    (hanswers : (after setup h).answers k e = none)
    (hpresent : ((after setup h).step now e).session.cache.contains k = true) :
    (after setup ((now, e) :: h)).sourceAt k = (after setup h).sourceAt k := by
  obtain ⟨hsetup, htidy, hknown⟩ := tidy_after hnamed h
  have hpasses := passes_step (by rw [hsetup]; exact hnamed) hknown htidy now e
  -- No flight has the number that is next in the end.
  let mark := if ((after setup h).session.read k).isSome then
    some ((after setup h).step now e).session.flights.nextFlight else none
  have hroute := hpasses.route k none mark fun hread => ⟨rfl, by simp [mark, hread]⟩
  rw [Cache.contains_eq] at hpresent
  have hread : (((after setup h).step now e).session.read k).isSome = true := hpresent
  simp only [stores_of_answers hanswers, hread, if_true] at hroute
  obtain ⟨hit, hroute⟩ : ∃ hit, Relation.ReflTransGen (Cell.Step (after setup h).session.setup k)
      ((after setup h).cell k none mark) ((after setup ((now, e) :: h)).cell k hit mark) :=
    ⟨_, hroute⟩
  show ((after setup ((now, e) :: h)).cell k hit mark).source =
    ((after setup h).cell k none mark).source
  refine Cell.source_chain (hknown k _ none mark) (fun n hn => ?_) (fun hnone => ?_)
    (fun _ => rfl) hroute rfl
  · simp only [cell, Session.cell, mark, Option.ite_none_right_eq_some, Option.some.injEq] at hn
    exact Nat.le_of_eq hn.2
  · have habsent : (after setup h).session.read k = none := by
      cases hbefore : (after setup h).session.read k with
      | none => rfl
      | some e => simp [cell, Session.cell, mark, hbefore] at hnone
    exact sourceAt_of_absent habsent

/-- An entry that has been fetched was there before, if no answer was stored, and with the same
tags. -/
theorem read_before (hnamed : setup.WellNamed) {now : Nat} {e : Event}
    (hanswers : (after setup h).answers k e = none) {entry : Entry}
    (hread : (after setup ((now, e) :: h)).session.read k = some entry)
    (hfetched : entry.fetchedAt.isSome = true) :
    ∃ before, (after setup h).session.read k = some before ∧ before.tags = entry.tags := by
  have hpresent : ((after setup h).step now e).session.cache.contains k = true := by
    rw [Cache.contains_eq]
    exact Option.isSome_of_eq_some hread
  have hkept := sourceAt_kept hnamed hanswers hpresent
  rw [sourceAt_of_read hread] at hkept
  cases hbefore : (after setup h).session.read k with
  | none =>
      rw [sourceAt_of_absent hbefore] at hkept
      simp [(Prod.mk.inj hkept).2] at hfetched
  | some before =>
      rw [sourceAt_of_read hbefore] at hkept
      exact ⟨before, rfl, (Prod.mk.inj hkept).1.symm⟩

/-- What an answer leaves of itself when it is stored. -/
theorem sources_answer (hnamed : setup.WellNamed) {now flight : Nat} {f : Fetch} {value : Json}
    (hair : (after setup h).session.fetches[flight]? = some f)
    (hcounts : (after setup h).session.counts k f = true)
    (hpresent : ((after setup h).step now (.land flight (.ok value))).session.cache.contains k =
      true) :
    Sources setup k (some (f, value))
      ((after setup ((now, .land flight (.ok value)) :: h)).sourceAt k) := by
  have hserves := (known_cellAfter hnamed k h).air flight f (air_cellAfter hair hcounts)
  obtain ⟨rfl, hgen⟩ : f.key = k ∧ f.generation = (after setup h).session.generation := by
    simpa [Session.counts] using hcounts
  have hread : (after setup ((now, .land flight (.ok value)) :: h)).session.read f.key =
      ((after setup h).session.read f.key).map fun e =>
        e.load ((after setup h).session.store now f value).1 (f.endpoint.tagsOf f.args value) now
          f.epoch := by
    rw [← Session.read_land_ok hgen.symm now flight value]
    simp only [after, step, hair]
    rfl
  rw [Cache.contains_eq] at hpresent
  have hsome : ((after setup ((now, .land flight (.ok value)) :: h)).session.read f.key).isSome :=
    hpresent
  rw [hread, Option.isSome_map] at hsome
  obtain ⟨e, he⟩ := Option.isSome_iff_exists.mp hsome
  have hsource : (after setup ((now, .land flight (.ok value)) :: h)).sourceAt f.key =
      (f.endpoint.tagsOf f.args value, some now) :=
    sourceAt_of_read (hread.trans (congrArg (Option.map _) he))
  rw [hsource]
  exact .answer hserves value now

/-- **The tags of an entry are those of its last answer.** -/
theorem sources_after (hnamed : setup.WellNamed) (k : Key) (h : History) :
    Sources setup k (lastAnswer setup k h) ((after setup h).sourceAt k) := by
  induction h with
  | nil =>
      rw [sourceAt_of_absent (p := after setup []) (read_start setup k)]
      exact .nothing
  | cons event h ih =>
      obtain ⟨now, e⟩ := event
      rw [lastAnswer]
      split
      · rename_i hpresent
        cases hanswers : (after setup h).answers k e with
        | none =>
            rw [sourceAt_kept hnamed hanswers hpresent]
            exact ih
        | some answer =>
            obtain ⟨f, value⟩ := answer
            obtain ⟨flight, rfl, hair, hcounts⟩ := land_of_answers hanswers
            exact sources_answer hnamed hair hcounts hpresent
      · rename_i habsent
        have hread : (after setup ((now, e) :: h)).session.read k = none := by
          rw [Cache.contains_eq, Bool.not_eq_true, Option.isSome_eq_false_iff,
            Option.isNone_iff_eq_none] at habsent
          exact habsent
        rw [sourceAt_of_absent hread]
        exact .nothing

/-- An entry that has been fetched has an answer, of a call with its key, and the tags of it. -/
theorem answer_of_fetched (hnamed : setup.WellNamed) {e : Entry}
    (hread : (after setup h).session.read k = some e) (hfetched : e.fetchedAt.isSome = true) :
    ∃ f value, lastAnswer setup k h = some (f, value) ∧
      setup.Serves k f.endpoint f.args ∧ e.tags = f.endpoint.tagsOf f.args value := by
  have hsources := sources_after hnamed k h
  rw [sourceAt_of_read hread] at hsources
  generalize lastAnswer setup k h = answer at hsources ⊢
  generalize hfound : (e.tags, e.fetchedAt) = found at hsources
  cases hsources with
  | nothing => simp [(Prod.mk.inj hfound).2] at hfetched
  | @answer f hserves value now => exact ⟨f, value, rfl, hserves, congrArg Prod.fst hfound⟩

end Situation

end QueryCache
