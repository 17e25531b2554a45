import Mathlib.Logic.Relation
import QueryCache.Proofs.Naming
/-!
# What can happen at one key

All that a session, its follow-ups and its history know about one key is a `Cell`: the entry,
the tags on record, the window, the flights of the key that are in the air, those that have
landed and are to be followed up, and the two marks of the history.  Whatever happens to a
session looks, from one key, like a chain of the steps listed in `Step`; most of what other
keys do is `drift`, the counting up of flight numbers.

`Sound` is the invariant.  Its heart is `flight`: while a flight is in the air the entry is
either a new one that knows nothing yet, or the one the flight departed for; and the latter has
been declared stale since exactly if its epoch is no longer the flight's.  `attended` says why no
subscriber waits in vain: an entry that is watched has a flight in the air, or has failed, or is
loaded and fresh, or is loaded and some landed flight of an earlier epoch is to be followed up.
-/

namespace QueryCache

namespace Entry

/-- The entry knows nothing of any answer. -/
def Blank (e : Entry) : Prop :=
  e.stage = .unfetched ∧ e.fetchedAt = none ∧ e.invalidated = false ∧ e.epoch = 0 ∧ e.tags = ∅

/-- The entries differ at most in the data shown and in who watches. -/
def Alike (e e' : Entry) : Prop :=
  e' = { e with
    data := e'.data, subscribers := e'.subscribers, unusedSince := e'.unusedSince }

end Entry

@[ext]
structure Cell where
  entry : Option Entry
  /-- The tags on record. -/
  tags : TagSet
  window : Option Nat
  /-- The flights in the air. -/
  air : Nat → Option Fetch
  /-- The flights that have landed and are to be followed up. -/
  landed : Nat → Option Fetch
  /-- The number of the next flight of any key. -/
  next : Nat
  /-- The mark of the last declaration that hit the entry. -/
  hit : Option Nat
  /-- The flight whose answer was stored last. -/
  stored : Option Nat

namespace Cell

/-- A flight departs for an entry. -/
def depart (c : Cell) (e : Entry) (f : Fetch) : Cell :=
  { c with
    entry := some e.beginFetch
    window := if f.endpoint.shared then some c.next else c.window
    air := fun n => if n = c.next then some f else c.air n
    next := c.next + 1 }

/-- A flight lands. -/
def close (c : Cell) (flight : Nat) (f : Fetch) : Cell :=
  { c with
    window := if c.window = some flight then none else c.window
    air := fun n => if n = flight then none else c.air n
    landed := fun n => if n = flight then some f else c.landed n }

/-- The entry is dropped. -/
def drop (c : Cell) : Cell := { c with entry := none, tags := ∅, hit := none, stored := none }

/-- The entry is declared stale. -/
def strike (c : Cell) (e : Entry) : Cell :=
  { c with entry := some e.invalidate, hit := some c.next }

/-- The entry needs nobody to come back to it. -/
def AtRest (c : Cell) (e : Entry) : Prop :=
  c.window.isSome ∨ e.stage = .failed ∨ (e.stage = .loaded ∧ e.invalidated = false)

/-- The entry has been fetched and is not declared stale, or it is being fetched. -/
def Served (c : Cell) (e : Entry) : Prop :=
  c.window.isSome ∨ e.stage = .fetching ∨ (e.fetchedAt.isSome ∧ e.invalidated = false)

/-- The flight has departed, and as long as it is in the air the entry knows of no answer. -/
def Unanswered (c : Cell) (n : Nat) : Prop :=
  n < c.next ∧ ∀ f e, c.air n = some f → c.entry = some e → e.stage = .unfetched

/-- A landed flight of an earlier epoch is yet to be followed up. -/
def Owed (c : Cell) (e : Entry) : Prop := ∃ n f, c.landed n = some f ∧ f.epoch < e.epoch

/-- What can happen at a key of a catalogue. -/
inductive Step (setup : Setup) (k : Key) : Cell → Cell → Prop
  /-- Flights of other keys depart. -/
  | drift {c : Cell} {n : Nat} (hn : c.next ≤ n) : Step setup k c { c with next := n }
  | make {c : Cell} {e : Entry} {endpoint : Endpoint} (hnone : c.entry = none) (hblank : e.Blank)
      (hunwatched : e.isWatched = false) (hlists : setup.Lists e.endpoint endpoint)
      (hkey : endpoint.keyOf e.args = k) : Step setup k c { c with entry := some e }
  /-- Somebody comes or goes, or other data is shown. -/
  | turn {c : Cell} {e e' : Entry} (hentry : c.entry = some e) (halike : e.Alike e')
      (hwatch : e'.isWatched = true → e.isWatched = true ∨ (setup.Shares k → c.Served e)) :
      Step setup k c { c with entry := some e' }
  | depart {c : Cell} {e : Entry} {f : Fetch} (hentry : c.entry = some e)
      (hepoch : f.epoch = e.epoch) (hserves : setup.Serves k f.endpoint f.args)
      (hopen : f.endpoint.shared = true → c.window = none) : Step setup k c (c.depart e f)
  /-- An entry that need not be fetched now is declared stale. -/
  | strike {c : Cell} {e : Entry} (hentry : c.entry = some e) (htags : c.tags ≠ ∅)
      (hidle : e.isWatched = true → e.stage = .fetching ∨ c.window.isSome) :
      Step setup k c (c.strike e)
  /-- An entry is declared stale and fetched again, other keys perhaps before it. -/
  | strikeAndDepart {c : Cell} {e : Entry} {f : Fetch} {n : Nat} (hentry : c.entry = some e)
      (htags : c.tags ≠ ∅) (hn : c.next ≤ n) (hepoch : f.epoch = e.epoch + 1)
      (hserves : setup.Serves k f.endpoint f.args)
      (hopen : f.endpoint.shared = true → c.window = none) :
      Step setup k c ({ c.strike e with next := n }.depart e.invalidate f)
  | load {c : Cell} {e : Entry} {n : Nat} {f : Fetch} {shown : Version} {tags : TagSet}
      {now : Nat} (hair : c.air n = some f) (hentry : c.entry = some e) :
      Step setup k c { c.close n f with
        entry := some (e.load shown tags now f.epoch), tags := tags, stored := some n }
  | fail {c : Cell} {e : Entry} {n : Nat} {f : Fetch} {failure : Failure}
      (hair : c.air n = some f) (hentry : c.entry = some e) :
      Step setup k c { c.close n f with entry := some (e.fail failure) }
  /-- A flight lands for an entry that is gone. -/
  | miss {c : Cell} {n : Nat} {f : Fetch} (hair : c.air n = some f) (hnone : c.entry = none) :
      Step setup k c (c.close n f)
  /-- A landed flight is followed up. -/
  | settle {c : Cell} {n : Nat} {f : Fetch} (hlanded : c.landed n = some f)
      (hdone : ∀ e, c.entry = some e → e.epoch ≠ f.epoch → e.isWatched = true →
        e.stage = .fetching ∨ c.window.isSome) :
      Step setup k c { c with landed := fun m => if m = n then none else c.landed m }
  | drop {c : Cell} {e : Entry} (hentry : c.entry = some e) (hunwatched : e.isWatched = false) :
      Step setup k c c.drop
  /-- A reset. -/
  | clear {c : Cell} :
      Step setup k c
        { c.drop with window := none, air := fun _ => none, landed := fun _ => none }

/-- What holds at every key. -/
structure Known (setup : Setup) (k : Key) (c : Cell) : Prop where
  entry : ∀ e, c.entry = some e →
    ∃ endpoint, setup.Lists e.endpoint endpoint ∧ endpoint.keyOf e.args = k
  air : ∀ n f, c.air n = some f → setup.Serves k f.endpoint f.args
  early : ∀ n f, c.air n = some f → n < c.next
  carried : ∀ n, c.window = some n → ∃ f, c.air n = some f

/-- What holds at a key whose flights are shared. -/
structure Sound (c : Cell) : Prop where
  single : ∀ n f, c.air n = some f → c.window = some n
  fetching : ∀ e, c.entry = some e → e.stage = .fetching → c.window.isSome
  tagged : ∀ e, c.entry = some e → c.tags = e.tags
  absent : c.entry = none → c.tags = ∅ ∧ c.hit = none ∧ c.stored = none
  blank : ∀ e, c.entry = some e → e.stage = .unfetched →
    e.Blank ∧ c.hit = none ∧ c.stored = none
  marked : ∀ mark, c.hit = some mark → mark ≤ c.next
  flight : ∀ n f e, c.air n = some f → c.entry = some e → e.stage = .unfetched ∨
    (e.stage = .fetching ∧
      ((f.epoch = e.epoch ∧ ∀ mark, c.hit = some mark → mark ≤ n) ∨
       (f.epoch < e.epoch ∧ e.invalidated = true ∧ ∃ mark, c.hit = some mark ∧ n < mark)))
  loaded : ∀ e, c.entry = some e → e.stage = .loaded → ∃ n, c.stored = some n ∧
    (e.invalidated = false → ∀ mark, c.hit = some mark → mark ≤ n)
  attended : ∀ e, c.entry = some e → e.isWatched = true →
    c.AtRest e ∨ (e.stage = .loaded ∧ c.Owed e)

variable {setup : Setup} {k : Key} {c c' : Cell}

/-- A departure for an entry is a flight of the key's own call. -/
theorem Known.depart (h : c.Known setup k) {e : Entry} {f : Fetch} (hentry : c.entry = some e)
    (hserves : setup.Serves k f.endpoint f.args) : (c.depart e f).Known setup k where
  entry := by
    intro e' heq
    cases heq
    exact h.entry e hentry
  air := by
    intro n g hg
    simp only [Cell.depart] at hg
    split at hg
    · cases hg
      exact hserves
    · exact h.air n g hg
  early := by
    intro n g hg
    simp only [Cell.depart] at hg ⊢
    split at hg
    · omega
    · have := h.early n g hg
      omega
  carried := by
    intro n hn
    simp only [Cell.depart] at hn ⊢
    by_cases hnext : n = c.next
    · exact ⟨f, if_pos hnext⟩
    · rw [if_neg hnext]
      refine h.carried n ?_
      split at hn
      · exact absurd (Option.some.inj hn).symm hnext
      · exact hn

/-- A landing leaves entry and catalogue as they are. -/
theorem Known.close (h : c.Known setup k) (n : Nat) (f : Fetch) : (c.close n f).Known setup k where
  entry := h.entry
  air := by
    intro m g hg
    simp only [Cell.close] at hg
    split at hg
    · cases hg
    · exact h.air m g hg
  early := by
    intro m g hg
    simp only [Cell.close] at hg ⊢
    split at hg
    · cases hg
    · exact h.early m g hg
  carried := by
    intro m hm
    simp only [Cell.close] at hm ⊢
    split at hm
    · cases hm
    · rename_i hother
      have hne : m ≠ n := fun hmn => hother (hmn ▸ hm)
      rw [if_neg hne]
      exact h.carried m hm

/-- What is known stays known as long as the entry stays that of the same call and the flights
stay in the air. -/
theorem Known.of_same (h : c.Known setup k) (hair : c'.air = c.air) (hnext : c'.next = c.next)
    (hwindow : c'.window = c.window) (hcall : ∀ e', c'.entry = some e' →
      ∃ e, c.entry = some e ∧ e'.endpoint = e.endpoint ∧ e'.args = e.args) :
    c'.Known setup k where
  entry := by
    intro e' he'
    obtain ⟨e, he, hendpoint, hargs⟩ := hcall e' he'
    rw [hendpoint, hargs]
    exact h.entry e he
  air := by rw [hair]; exact h.air
  early := by rw [hair, hnext]; exact h.early
  carried := by rw [hair, hwindow]; exact h.carried

/-- What is known of a key stays so in each step. -/
theorem Known.step (h : c.Known setup k) (hstep : Step setup k c c') : c'.Known setup k := by
  cases hstep with
  | drift hn => exact { h with early := fun n f hf => Nat.lt_of_lt_of_le (h.early n f hf) hn }
  | @make e endpoint hnone hblank hunwatched hlists hkey =>
      refine { h with entry := ?_ }
      intro e' heq
      cases heq
      exact ⟨endpoint, hlists, hkey⟩
  | turn hentry halike hwatch =>
      rw [halike]
      exact h.of_same rfl rfl rfl (by intro _ heq; cases heq; exact ⟨_, hentry, rfl, rfl⟩)
  | depart hentry hepoch hserves hopen => exact h.depart hentry hserves
  | strike hentry htags hidle =>
      exact h.of_same rfl rfl rfl (by intro _ heq; cases heq; exact ⟨_, hentry, rfl, rfl⟩)
  | @strikeAndDepart e f n hentry htags hn hepoch hserves hopen =>
      have hstruck : (c.strike e).Known setup k :=
        h.of_same rfl rfl rfl (by intro _ heq; cases heq; exact ⟨_, hentry, rfl, rfl⟩)
      refine Known.depart (c := { c.strike e with next := n }) ?_ rfl hserves
      exact { hstruck with early := fun m g hg => Nat.lt_of_lt_of_le (h.early m g hg) hn }
  | @load e n f shown tags now hair hentry =>
      exact (h.close n f).of_same rfl rfl rfl
        (by intro _ heq; cases heq; exact ⟨e, hentry, rfl, rfl⟩)
  | @fail e n f failure hair hentry =>
      exact (h.close n f).of_same rfl rfl rfl
        (by intro _ heq; cases heq; exact ⟨e, hentry, rfl, rfl⟩)
  | miss hair hnone => exact h.close _ _
  | settle hlanded hdone => exact { h with }
  | drop hentry hunwatched => exact { h with entry := fun _ hgone => by cases hgone }
  | clear =>
      exact
        { entry := fun _ hgone => by cases hgone
          air := fun _ _ hgone => by cases hgone
          early := fun _ _ hgone => by cases hgone
          carried := fun _ hgone => by cases hgone }

/-! ## Single flights -/

/-- The flight that has the window is the only one in the air. -/
theorem Sound.air_eq (h : c.Sound) {n m : Nat} {f g : Fetch} (hf : c.air n = some f)
    (hg : c.air m = some g) : m = n ∧ g = f := by
  have hn := h.single n f hf
  have hm := h.single m g hg
  obtain rfl : m = n := Option.some.inj (hm.symm.trans hn)
  exact ⟨rfl, Option.some.inj (hg.symm.trans hf)⟩

/-- With the window closed nothing is in the air. -/
theorem Sound.air_none (h : c.Sound) (hwindow : c.window = none) (n : Nat) : c.air n = none := by
  cases hair : c.air n with
  | none => rfl
  | some f =>
      have := h.single n f hair
      simp [hwindow] at this

/-- After the landing of the flight in the air nothing is left there. -/
theorem Sound.close_air (h : c.Sound) {n : Nat} {f : Fetch} (hair : c.air n = some f) (m : Nat) :
    (c.close n f).air m = none := by
  simp only [Cell.close]
  split
  · rfl
  · cases hm : c.air m with
    | none => rfl
    | some g =>
        have := (h.air_eq hair hm).1
        contradiction

/-- When the flight in the air has landed no window is open. -/
theorem Sound.close_window (h : c.Sound) {n : Nat} {f : Fetch} (hair : c.air n = some f) :
    (c.close n f).window = none := by
  simp [Cell.close, h.single n f hair]

/-! ## Each step keeps the invariant -/

/-- Flights of other keys may take numbers. -/
theorem Sound.drift (h : c.Sound) {n : Nat} (hn : c.next ≤ n) : Sound { c with next := n } :=
  { h with
    marked := fun mark hmark => Nat.le_trans (h.marked mark hmark) hn }

/-- A new entry may be made where there is none. -/
theorem Sound.make (h : c.Sound) {e : Entry} (hnone : c.entry = none) (hblank : e.Blank)
    (hunwatched : e.isWatched = false) : Sound { c with entry := some e } := by
  obtain ⟨hstage, -, -, -, htags⟩ := id hblank
  obtain ⟨hnoTags, hnoMarks⟩ := h.absent hnone
  exact
    { h with
      fetching := by intro e' heq hfetching; cases heq; simp [hstage] at hfetching
      tagged := by intro e' heq; cases heq; exact hnoTags.trans htags.symm
      absent := nofun
      blank := by intro e' heq _; cases heq; exact ⟨hblank, hnoMarks⟩
      flight := by intro n f e' _ heq; cases heq; exact Or.inl hstage
      loaded := by intro e' heq hloaded; cases heq; simp [hstage] at hloaded
      attended := by intro e' heq hwatched; cases heq; simp [hunwatched] at hwatched }

/-- An entry that is served needs nobody to come back to it. -/
theorem Sound.atRest (h : c.Sound) {e : Entry} (hentry : c.entry = some e)
    (hserved : c.Served e) : c.AtRest e := by
  rcases hserved with hwindow | hfetching | ⟨hfetched, hfresh⟩
  · exact Or.inl hwindow
  · exact Or.inl (h.fetching e hentry hfetching)
  · cases hstage : e.stage with
    | unfetched =>
        have hnever : e.fetchedAt = none := (h.blank e hentry hstage).1.2.1
        rw [hnever] at hfetched
        cases hfetched
    | fetching => exact Or.inl (h.fetching e hentry hstage)
    | loaded => exact Or.inr (Or.inr ⟨hstage, hfresh⟩)
    | failed => exact Or.inr (Or.inl hstage)

/-- Subscribers may come and go, and versions be shown, as long as nobody begins to watch an entry
that is not served. -/
theorem Sound.turn (h : c.Sound) {e e' : Entry} (hentry : c.entry = some e) (halike : e.Alike e')
    (hwatch : e'.isWatched = true → e.isWatched = true ∨ c.Served e) :
    Sound { c with entry := some e' } := by
  have hstage : e'.stage = e.stage := by rw [halike]
  have hstale : e'.invalidated = e.invalidated := by rw [halike]
  have hepoch : e'.epoch = e.epoch := by rw [halike]
  have htags : e'.tags = e.tags := by rw [halike]
  have hat : e'.fetchedAt = e.fetchedAt := by rw [halike]
  exact
    { h with
      fetching := by
        intro _ heq hfetching
        cases heq
        exact h.fetching e hentry (hstage ▸ hfetching)
      tagged := by
        intro _ heq
        cases heq
        exact (h.tagged e hentry).trans htags.symm
      absent := nofun
      blank := by
        intro _ heq hunfetched
        cases heq
        obtain ⟨⟨-, hblank⟩, hmarks⟩ := h.blank e hentry (hstage ▸ hunfetched)
        refine ⟨⟨hunfetched, ?_⟩, hmarks⟩
        rwa [hat, hstale, hepoch, htags]
      flight := by
        intro n f _ hair heq
        cases heq
        rw [hstage, hepoch, hstale]
        exact h.flight n f e hair hentry
      loaded := by
        intro _ heq hloaded
        cases heq
        rw [hstale]
        exact h.loaded e hentry (hstage ▸ hloaded)
      attended := by
        intro _ heq hwatched
        cases heq
        unfold AtRest Owed
        rw [hstage, hstale, hepoch]
        rcases hwatch hwatched with hbefore | hserved
        · exact h.attended e hentry hbefore
        · exact Or.inl (h.atRest hentry hserved) }

/-- A flight may depart, in the entry's epoch, when no window is open. -/
theorem Sound.depart (h : c.Sound) {e : Entry} {f : Fetch} (hentry : c.entry = some e)
    (hepoch : f.epoch = e.epoch) (hshared : f.endpoint.shared = true) (hopen : c.window = none) :
    (c.depart e f).Sound := by
  have hair : ∀ n, (c.depart e f).air n = if n = c.next then some f else none := by
    intro n
    simp [Cell.depart, h.air_none hopen]
  have hwindow : (c.depart e f).window = some c.next := by simp [Cell.depart, hshared]
  have hnone : (c.depart e f).entry ≠ none := nofun
  exact
    { single := by
        intro n g hg
        rw [hair] at hg
        split at hg
        · rw [hwindow]; simp_all
        · cases hg
      fetching := fun e' he' _ => by rw [hwindow]; rfl
      tagged := by intro _ heq; cases heq; exact h.tagged e hentry
      absent := fun hgone => absurd hgone hnone
      blank := by intro _ heq hstage; cases heq; cases hstage
      marked := by
        intro mark hmark
        have := h.marked mark hmark
        simp only [Cell.depart]
        omega
      flight := by
        intro n g _ hg heq
        cases heq
        rw [hair] at hg
        split at hg
        · rename_i hn
          cases hg
          subst hn
          exact Or.inr ⟨rfl, Or.inl ⟨hepoch, h.marked⟩⟩
        · cases hg
      loaded := by intro _ heq hstage; cases heq; cases hstage
      attended := fun e' he' hwatched => Or.inl (Or.inl (by rw [hwindow]; rfl)) }

/-- An entry with tags on record has had an answer. -/
theorem Sound.not_unfetched (h : c.Sound) {e : Entry} (hentry : c.entry = some e)
    (htags : c.tags ≠ ∅) : e.stage ≠ .unfetched := by
  intro hstage
  obtain ⟨⟨-, -, -, -, hnone⟩, -⟩ := h.blank e hentry hstage
  exact htags ((h.tagged e hentry).trans hnone)

/-- A declaration overtakes whatever flight is in the air, and leaves all else but the debt to
the subscribers as it was. -/
theorem Sound.strike (h : c.Sound) (hearly : ∀ n f, c.air n = some f → n < c.next) {e : Entry}
    (hentry : c.entry = some e) (htags : c.tags ≠ ∅)
    (hidle : e.isWatched = true → e.stage = .fetching ∨ c.window.isSome) :
    (c.strike e).Sound := by
  have hfetched := h.not_unfetched hentry htags
  exact
    { h with
      fetching := by intro _ heq hfetching; cases heq; exact h.fetching e hentry hfetching
      tagged := by intro _ heq; cases heq; exact h.tagged e hentry
      absent := nofun
      blank := by intro _ heq hstage; cases heq; exact absurd hstage hfetched
      marked := by intro _ heq; cases heq; exact Nat.le_refl _
      flight := by
        intro n f _ hair heq
        cases heq
        have hn := hearly n f hair
        rcases h.flight n f e hair hentry with hstage | ⟨hstage, hcases⟩
        · exact absurd hstage hfetched
        · refine Or.inr ⟨hstage, Or.inr ⟨?_, rfl, c.next, rfl, hn⟩⟩
          have hle : f.epoch ≤ e.epoch := by
            rcases hcases with ⟨heq, -⟩ | ⟨hlt, -⟩
            · exact Nat.le_of_eq heq
            · exact Nat.le_of_lt hlt
          exact Nat.lt_succ_of_le hle
      loaded := by
        intro _ heq hstage
        cases heq
        obtain ⟨n, hn, -⟩ := h.loaded e hentry hstage
        exact ⟨n, hn, nofun⟩
      attended := by
        intro _ heq hwatched
        cases heq
        left; left
        rcases hidle hwatched with hfetching | hwindow
        · exact h.fetching e hentry hfetching
        · exact hwindow }

/-- The entry is declared stale and fetched again at once: for a moment nobody cares for those
who watch it, so the two go together. -/
theorem Sound.strikeAndDepart (h : c.Sound)
    (hearly : ∀ n f, c.air n = some f → n < c.next) {e : Entry} {f : Fetch} {n : Nat}
    (hentry : c.entry = some e) (htags : c.tags ≠ ∅) (hn : c.next ≤ n)
    (hepoch : f.epoch = e.epoch + 1) (hshared : f.endpoint.shared = true)
    (hopen : c.window = none) :
    ({ c.strike e with next := n }.depart e.invalidate f).Sound := by
  -- Seen with nobody watching, the declaration alone keeps the invariant.
  have halone : Sound { c with entry := some { e with subscribers := ∅ } } :=
    h.turn hentry rfl (by simp [Entry.isWatched])
  have hstruck := (halone.strike hearly rfl htags (by simp [Entry.isWatched])).drift hn
  have hdeparted := hstruck.depart (f := f) rfl hepoch hshared hopen
  have halike : ({ e with subscribers := ∅ } : Entry).invalidate.beginFetch.Alike
      e.invalidate.beginFetch := rfl
  exact hdeparted.turn rfl halike
    (fun _ => Or.inr (Or.inl (by simp [Cell.depart, hshared])))

/-- The answer of the flight in the air may be stored. -/
theorem Sound.load (h : c.Sound) {e : Entry} {n : Nat} {f : Fetch} {shown : Version}
    {tags : TagSet} {now : Nat} (hair : c.air n = some f) (hentry : c.entry = some e) :
    Sound { c.close n f with
      entry := some (e.load shown tags now f.epoch), tags := tags, stored := some n } := by
  have hnone := h.close_air hair
  have hclosed := h.close_window hair
  exact
    { single := fun m g hg => by rw [hnone] at hg; cases hg
      fetching := by intro _ heq hstage; cases heq; cases hstage
      tagged := by intro _ heq; cases heq; rfl
      absent := nofun
      blank := by intro _ heq hstage; cases heq; cases hstage
      marked := h.marked
      flight := fun m g e' hg => by rw [hnone] at hg; cases hg
      loaded := by
        intro _ heq _
        cases heq
        refine ⟨n, rfl, fun hfresh mark hmark => ?_⟩
        rcases h.flight n f e hair hentry with hstage | ⟨-, ⟨-, hmarks⟩ | ⟨hlt, hstale, -⟩⟩
        · have hnever : c.hit = none := (h.blank e hentry hstage).2.1
          rw [show c.hit = some mark from hmark] at hnever
          cases hnever
        · exact hmarks mark hmark
        · simp only [Entry.load, hstale, Bool.true_and, bne_eq_false_iff_eq] at hfresh
          omega
      attended := by
        intro _ heq _
        cases heq
        rcases h.flight n f e hair hentry with hstage | ⟨-, ⟨heq, -⟩ | ⟨hlt, -⟩⟩
        · have hfresh : e.invalidated = false := (h.blank e hentry hstage).1.2.2.1
          exact Or.inl (Or.inr (Or.inr ⟨rfl, by simp [Entry.load, hfresh]⟩))
        · exact Or.inl (Or.inr (Or.inr ⟨rfl, by simp [Entry.load, heq]⟩))
        · exact Or.inr ⟨rfl, n, f, by simp [Cell.close], hlt⟩ }

/-- The failure of the flight in the air may be stored. -/
theorem Sound.fail (h : c.Sound) {e : Entry} {n : Nat} {f : Fetch} {failure : Failure}
    (hair : c.air n = some f) (hentry : c.entry = some e) :
    Sound { c.close n f with entry := some (e.fail failure) } := by
  have hnone := h.close_air hair
  have hclosed := h.close_window hair
  exact
    { single := fun m g hg => by rw [hnone] at hg; cases hg
      fetching := by intro _ heq hstage; cases heq; cases hstage
      tagged := by intro _ heq; cases heq; exact h.tagged e hentry
      absent := nofun
      blank := by intro _ heq hstage; cases heq; cases hstage
      marked := h.marked
      flight := fun m g e' hg => by rw [hnone] at hg; cases hg
      loaded := by intro _ heq hstage; cases heq; cases hstage
      attended := by intro _ heq _; cases heq; exact Or.inl (Or.inr (Or.inl rfl)) }

/-- A flight may land where the entry is gone. -/
theorem Sound.miss (h : c.Sound) {n : Nat} {f : Fetch} (hair : c.air n = some f)
    (hnone : c.entry = none) : (c.close n f).Sound := by
  have hlanded := h.close_air hair
  have hclosed := h.close_window hair
  have hgone : ∀ e, (c.close n f).entry ≠ some e := by
    intro e he
    rw [show (c.close n f).entry = none from hnone] at he
    cases he
  exact
    { single := fun m g hg => by rw [hlanded] at hg; cases hg
      fetching := fun e he => absurd he (hgone e)
      tagged := fun e he => absurd he (hgone e)
      absent := h.absent
      blank := fun e he => absurd he (hgone e)
      marked := h.marked
      flight := fun m g e _ he => absurd he (hgone e)
      loaded := fun e he => absurd he (hgone e)
      attended := fun e he => absurd he (hgone e) }

/-- The debt of a landed flight is paid when it is followed up: what it leaves undone is either
under way or was never its to do. -/
theorem Sound.settle (h : c.Sound) {n : Nat} {f : Fetch} (hlanded : c.landed n = some f)
    (hdone : ∀ e, c.entry = some e → e.epoch ≠ f.epoch → e.isWatched = true →
      e.stage = .fetching ∨ c.window.isSome) :
    Sound { c with landed := fun m => if m = n then none else c.landed m } := by
  refine { h with attended := ?_ }
  intro e he hwatched
  rcases h.attended e he hwatched with hrest | ⟨hstage, m, g, hg, hlt⟩
  · exact Or.inl hrest
  · by_cases hm : m = n
    · subst hm
      obtain rfl : g = f := Option.some.inj (hg.symm.trans hlanded)
      left; left
      rcases hdone e he (by omega) hwatched with hfetching | hwindow
      · exact h.fetching e he hfetching
      · exact hwindow
    · exact Or.inr ⟨hstage, m, g, by simp [hm, hg], hlt⟩

/-- The entry may be dropped. -/
theorem Sound.drop (h : c.Sound) : c.drop.Sound :=
  { h with
    fetching := fun _ hentry => by cases hentry
    tagged := fun _ hentry => by cases hentry
    absent := fun _ => ⟨rfl, rfl, rfl⟩
    blank := fun _ hentry => by cases hentry
    marked := fun _ hmark => by cases hmark
    flight := fun _ _ _ _ hentry => by cases hentry
    loaded := fun _ hentry => by cases hentry
    attended := fun _ hentry => by cases hentry }

/-- Where there is nothing, nothing is wrong. -/
theorem Sound.of_nothing (hentry : c.entry = none) (htags : c.tags = ∅) (hhit : c.hit = none)
    (hstored : c.stored = none) (hair : ∀ n, c.air n = none) : c.Sound where
  single := fun n f hf => by rw [hair] at hf; cases hf
  fetching := fun e he => by rw [hentry] at he; cases he
  tagged := fun e he => by rw [hentry] at he; cases he
  absent := fun _ => ⟨htags, hhit, hstored⟩
  blank := fun e he => by rw [hentry] at he; cases he
  marked := fun mark hmark => by rw [hhit] at hmark; cases hmark
  flight := fun n f e hf => by rw [hair] at hf; cases hf
  loaded := fun e he => by rw [hentry] at he; cases he
  attended := fun e he => by rw [hentry] at he; cases he

/-- The invariant is kept in each step. -/
theorem Sound.step (hshares : setup.Shares k) (hknown : c.Known setup k) (h : c.Sound)
    (hstep : Step setup k c c') : c'.Sound := by
  cases hstep with
  | drift hn => exact h.drift hn
  | make hnone hblank hunwatched => exact h.make hnone hblank hunwatched
  | turn hentry halike hwatch =>
      refine h.turn hentry halike fun hwatched => ?_
      exact (hwatch hwatched).imp_right fun hserved => hserved hshares
  | depart hentry hepoch hserves hopen =>
      have hshared := hshares _ _ hserves
      exact h.depart hentry hepoch hshared (hopen hshared)
  | strike hentry htags hidle => exact h.strike hknown.early hentry htags hidle
  | strikeAndDepart hentry htags hn hepoch hserves hopen =>
      have hshared := hshares _ _ hserves
      exact h.strikeAndDepart hknown.early hentry htags hn hepoch hshared (hopen hshared)
  | load hair hentry => exact h.load hair hentry
  | fail hair hentry => exact h.fail hair hentry
  | miss hair hnone => exact h.miss hair hnone
  | settle hlanded hdone => exact h.settle hlanded hdone
  | drop hentry hunwatched => exact h.drop
  | clear => exact .of_nothing rfl rfl rfl rfl fun _ => rfl

/-- An entry made anew during a flight has to wait for that flight. -/
theorem Unanswered.step (hshares : setup.Shares k) (h : c.Sound) {n : Nat}
    (hun : c.Unanswered n) (hstep : Step setup k c c') : c'.Unanswered n := by
  obtain ⟨hlt, hun⟩ := hun
  -- A flight can depart only when nothing is in the air.
  have hdeparted : ∀ (f : Fetch) (m : Nat), setup.Serves k f.endpoint f.args →
      (f.endpoint.shared = true → c.window = none) → c.next ≤ m → ∀ g,
        (if n = m then some f else c.air n) ≠ some g := by
    intro f m hserves hopen hm g hg
    have hne : n ≠ m := by omega
    rw [if_neg hne, h.air_none (hopen (hshares _ _ hserves))] at hg
    cases hg
  cases hstep with
  | drift hn => exact ⟨Nat.lt_of_lt_of_le hlt hn, hun⟩
  | make hnone hblank hunwatched =>
      refine ⟨hlt, ?_⟩
      intro f _ _ heq
      cases heq
      exact hblank.1
  | @turn e e' hentry halike hwatch =>
      refine ⟨hlt, ?_⟩
      intro f _ hf heq
      cases heq
      have hstage : e'.stage = e.stage := by rw [halike]
      rw [hstage]
      exact hun f e hf hentry
  | @depart e f hentry hepoch hserves hopen =>
      exact ⟨Nat.lt_succ_of_lt hlt, fun g _ hg =>
        absurd hg (hdeparted f c.next hserves hopen (Nat.le_refl _) g)⟩
  | @strike e hentry htags hidle =>
      refine ⟨hlt, fun f _ hf _ => ?_⟩
      exact absurd (hun f e hf hentry) (h.not_unfetched hentry htags)
  | @strikeAndDepart e f m hentry htags hn hepoch hserves hopen =>
      exact ⟨Nat.lt_succ_of_lt (Nat.lt_of_lt_of_le hlt hn), fun g _ hg =>
        absurd hg (hdeparted f m hserves hopen hn g)⟩
  | load hair hentry =>
      exact ⟨hlt, fun g _ hg => by rw [h.close_air hair] at hg; cases hg⟩
  | fail hair hentry =>
      exact ⟨hlt, fun g _ hg => by rw [h.close_air hair] at hg; cases hg⟩
  | miss hair hnone =>
      exact ⟨hlt, fun g _ hg => by rw [h.close_air hair] at hg; cases hg⟩
  | settle hlanded hdone => exact ⟨hlt, hun⟩
  | drop hentry hunwatched => exact ⟨hlt, fun _ _ _ hgone => by cases hgone⟩
  | clear => exact ⟨hlt, fun _ _ hair _ => by cases hair⟩

/-- **What a landing finds.**  The entry has been declared stale since the flight departed exactly
if a later mark hit it. -/
theorem Sound.stale_iff (h : c.Sound) {n : Nat} {f : Fetch} {e : Entry} (hair : c.air n = some f)
    (hentry : c.entry = some e) :
    (e.invalidated && e.epoch != f.epoch) = true ↔ ∃ mark, c.hit = some mark ∧ n < mark := by
  rcases h.flight n f e hair hentry with hstage | ⟨-, ⟨heq, hmarks⟩ | ⟨hlt, hstale, hmark⟩⟩
  · obtain ⟨⟨-, -, hfresh, -⟩, hhit, -⟩ := h.blank e hentry hstage
    simp [hfresh, hhit]
  · constructor
    · simp [heq]
    · intro hmarked
      obtain ⟨mark, hhit, hlt⟩ := hmarked
      have := hmarks mark hhit
      omega
  · have hne : e.epoch ≠ f.epoch := by omega
    simp [hstale, hne, hmark]

/-! ## Chains of steps -/

/-- What is known of a key stays so over a chain of steps. -/
theorem Known.chain (h : c.Known setup k) (hchain : Relation.ReflTransGen (Step setup k) c c') :
    c'.Known setup k := by
  induction hchain with
  | refl => exact h
  | tail _ hstep ih => exact ih.step hstep

/-- The invariant is kept over a chain of steps. -/
theorem Sound.chain (hshares : setup.Shares k) (hknown : c.Known setup k) (h : c.Sound)
    (hchain : Relation.ReflTransGen (Step setup k) c c') : c'.Sound := by
  induction hchain with
  | refl => exact h
  | tail hbefore hstep ih => exact ih.step hshares (hknown.chain hbefore) hstep

/-- A flight stays unanswered over a chain of steps, for all the entry knows. -/
theorem Unanswered.chain (hshares : setup.Shares k) (hknown : c.Known setup k) (h : c.Sound)
    {n : Nat} (hun : c.Unanswered n) (hchain : Relation.ReflTransGen (Step setup k) c c') :
    c'.Unanswered n := by
  induction hchain with
  | refl => exact hun
  | tail hbefore hstep ih => exact ih.step hshares (h.chain hshares hknown hbefore) hstep

end Cell

end QueryCache
