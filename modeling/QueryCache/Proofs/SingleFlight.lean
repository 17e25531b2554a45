import QueryCache.Proofs.Freshness
/-!
# One flight at a time, and answers in their order

Where the calls of a key share their flights there is at most one in the air that counts, and an
entry that is being fetched has it.  A flight departs only when nothing of its key is in the
air, so whatever is in the air departed after all that has landed there (`Past`, kept by each
step): no answer is stored after that of a flight that departed later.

None of this depends on the entry.  It may be dropped and made anew while the flight is in the
air; the window belongs to the key.
-/

namespace QueryCache

namespace Cell

/-- A flight has departed, and is in the air no longer, nor is any that departed before it. -/
def Past (c : Cell) (n : Nat) : Prop := n < c.next ∧ ∀ m f, c.air m = some f → n < m

variable {setup : Setup} {k : Key} {c c' : Cell} {n : Nat}

/-- A departure leaves what is past behind. -/
theorem Past.depart (h : c.Past n) (e : Entry) (f : Fetch) : (c.depart e f).Past n := by
  obtain ⟨hnext, hair⟩ := h
  refine ⟨Nat.lt_succ_of_lt hnext, fun m g hg => ?_⟩
  simp only [Cell.depart] at hg
  split at hg
  · omega
  · exact hair m g hg

/-- A landing leaves what is past behind. -/
theorem Past.close (h : c.Past n) (flight : Nat) (f : Fetch) : (c.close flight f).Past n := by
  obtain ⟨hnext, hair⟩ := h
  refine ⟨hnext, fun m g hg => ?_⟩
  simp only [Cell.close] at hg
  split at hg
  · cases hg
  · exact hair m g hg

/-- What is past stays so in each step. -/
theorem Past.step (h : c.Past n) (hstep : Step setup k c c') : c'.Past n := by
  cases hstep with
  | drift hn => exact ⟨Nat.lt_of_lt_of_le h.1 hn, h.2⟩
  | make hnone hblank hunwatched => exact h
  | turn hentry halike hwatch => exact h
  | depart hentry hepoch hserves hopen => exact h.depart _ _
  | strike hentry htags hidle => exact h
  | @strikeAndDepart e f next hentry htags hn hepoch hserves hopen =>
      have hstruck : Past { c.strike e with next := next } n :=
        ⟨Nat.lt_of_lt_of_le h.1 hn, h.2⟩
      exact hstruck.depart e.invalidate f
  | @load e flight f shown tags now hair hentry => exact h.close flight f
  | @fail e flight f failure hair hentry => exact h.close flight f
  | @miss flight f hair hnone => exact h.close flight f
  | settle hlanded hdone => exact h
  | drop hentry hunwatched => exact h
  | clear => exact ⟨h.1, fun _ _ hgone => by cases hgone⟩

/-- What is past stays so over a chain of steps. -/
theorem Past.chain (h : c.Past n) (hchain : Relation.ReflTransGen (Step setup k) c c') :
    c'.Past n := by
  induction hchain with
  | refl => exact h
  | tail _ hstep ih => exact ih.step hstep

end Cell

namespace Situation

variable {setup : Setup} {endpoints : List Endpoint} {h : History} {k : Key} {n : Nat} {f : Fetch}

/-- What is seen in the air at a key counts there. -/
theorem air_of_cellAfter (hair : (cellAfter setup k h).air n = some f) :
    (after setup h).session.fetches[n]? = some f ∧
      (after setup h).session.counts k f = true :=
  Option.filter_eq_some_iff.mp hair

/-- A flight that has landed is past. -/
theorem past_land (hnamed : setup.WellNamed) (hshares : setup.Shares k) (now : Nat) (value : Json)
    (hair : (after setup h).session.fetches[n]? = some f)
    (hcounts : (after setup h).session.counts k f = true) :
    (cellAfter setup k ((now, .land n (.ok value)) :: h)).Past n := by
  have hdeparted : n < (after setup h).session.flights.nextFlight :=
    ((tidy_after hnamed h).2.1.air n f hair).1
  obtain ⟨hnext, hold⟩ := flights_step hnamed h now (.land n (.ok value))
  refine ⟨Nat.lt_of_lt_of_le hdeparted hnext, fun m g hg => ?_⟩
  obtain ⟨hg, hgcounts⟩ := air_of_cellAfter hg
  rcases hold m g hg with hbefore | hnew
  · -- Nothing else was in the air at the key, and this flight no longer is.
    have hsession := session_land now value hair
    have hgeneration : (after setup ((now, .land n (.ok value)) :: h)).session.generation =
        (after setup h).session.generation := by
      rw [hsession]
      exact (Session.later_land _ now n f _).generation
    rw [Session.counts_eq hgeneration] at hgcounts
    obtain ⟨rfl, -⟩ := (sound_after hnamed hshares h).air_eq (air_cellAfter hair hcounts)
      (air_cellAfter hbefore hgcounts)
    rw [gone_land hair now (.ok value)] at hg
    cases hg
  · omega

/-- Whatever is in the air departed after all that has landed at the key. -/
theorem landed_lt (hnamed : setup.WellNamed) (hshares : setup.Shares k) {later earlier : History}
    {t : Nat} {value : Json} (hsplit : h = later ++ (t, .land n (.ok value)) :: earlier)
    (hair : (after setup earlier).session.fetches[n]? = some f)
    (hcounts : (after setup earlier).session.counts k f = true) {m : Nat} {g : Fetch}
    (hg : (after setup h).session.fetches[m]? = some g)
    (hgcounts : (after setup h).session.counts k g = true) : n < m := by
  have hpast := past_land hnamed hshares t value hair hcounts
  have hsuffix : (t, .land n (.ok value)) :: earlier <:+ h := ⟨later, hsplit.symm⟩
  exact (hpast.chain (chain_suffix hnamed k hsuffix)).2 m g (air_cellAfter hg hgcounts)

/-- What an event stores under a key is the answer of a flight that counts there. -/
theorem land_of_stores {e : Event} (hstores : (after setup h).stores k e = some n) :
    ∃ value f, e = .land n (.ok value) ∧ (after setup h).session.fetches[n]? = some f ∧
      (after setup h).session.counts k f = true := by
  unfold stores at hstores
  split at hstores
  · rename_i flight value
    cases hair : (after setup h).session.fetches[flight]? with
    | none => simp [hair] at hstores
    | some f =>
        simp only [hair, Option.ite_none_right_eq_some, Option.some.injEq] at hstores
        obtain ⟨hcounts, rfl⟩ := hstores
        exact ⟨value, f, rfl, hair, hcounts⟩
  · cases hstores

/-- The answer stored last was brought by a flight that counted when it landed. -/
theorem landed_of_lastStored (hstored : lastStored setup k h = some n) :
    ∃ later t value earlier f, h = later ++ (t, .land n (.ok value)) :: earlier ∧
      (after setup earlier).session.fetches[n]? = some f ∧
      (after setup earlier).session.counts k f = true := by
  induction h with
  | nil => cases hstored
  | cons event h ih =>
      obtain ⟨t, e⟩ := event
      rw [lastStored] at hstored
      split at hstored
      · cases hstores : (after setup h).stores k e with
        | some flight =>
            obtain rfl : flight = n := by simpa [hstores] using hstored
            obtain ⟨value, f, rfl, hair, hcounts⟩ := land_of_stores hstores
            exact ⟨[], t, value, h, f, rfl, hair, hcounts⟩
        | none =>
            rw [hstores] at hstored
            obtain ⟨later, t', value, earlier, f, hsplit, hlanded⟩ := ih hstored
            exact ⟨(t, e) :: later, t', value, earlier, f, by rw [hsplit]; rfl, hlanded⟩
      · cases hstored

/-- The order of flights at one key. -/
structure InOrder (setup : Setup) (h : History) (k : Key) : Prop where
  /-- No two flights that count are in the air. -/
  single : ∀ (n m : Nat) (f g : Fetch), (after setup h).session.fetches[n]? = some f →
    (after setup h).session.fetches[m]? = some g → (after setup h).session.counts k f = true →
    (after setup h).session.counts k g = true → n = m
  /-- An entry that is being fetched has one. -/
  carried : ∀ e, (after setup h).session.read k = some e → e.stage = .fetching →
    ∃ (n : Nat) (f : Fetch), (after setup h).session.fetches[n]? = some f ∧
      (after setup h).session.counts k f = true
  /-- It departed after whatever has brought an answer. -/
  ordered : ∀ (later earlier : History) (t n : Nat) (value : Json) (f : Fetch),
    h = later ++ (t, .land n (.ok value)) :: earlier →
    (after setup earlier).session.fetches[n]? = some f →
    (after setup earlier).session.counts k f = true →
    ∀ (m : Nat) (g : Fetch), (after setup h).session.fetches[m]? = some g →
      (after setup h).session.counts k g = true → n < m
  /-- So the answer stored in the entry gives way only to that of a later flight. -/
  stored : ∀ n, lastStored setup k h = some n →
    ∀ e m, (after setup h).stores k e = some m → n < m

end Situation

end QueryCache
