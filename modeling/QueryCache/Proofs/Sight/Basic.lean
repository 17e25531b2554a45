import QueryCache.Proofs.Cell
import QueryCache.Proofs.Situation
import QueryCache.Proofs.Tagging
/-!
# A session seen from one key

`Session.cell` is what a session shows at one key.  For each operation there is one statement
of what it looks like from any key: a chain of the steps of `Cell.Step`.  From the other keys
it looks like nothing at all, or like other flights departing.
-/

namespace QueryCache

namespace Cache

/-- An entry that is put is there for its key alone. -/
theorem read_put (c : Cache) (k : Key) (e : Entry) (k' : Key) :
    (c.put k e).read k' = if k' = k then some e else c.read k' := by
  unfold put read
  rw [Std.ExtTreeMap.getElem?_insert]
  by_cases h : k' = k
  · simp [h]
  · simp [h, Ne.symm h]

/-- An entry that is removed is gone, and no other. -/
theorem read_remove (c : Cache) (k k' : Key) :
    (c.remove k).read k' = if k' = k then none else c.read k' := by
  unfold remove read
  rw [Std.ExtTreeMap.getElem?_erase]
  by_cases h : k' = k
  · simp [h]
  · simp [h, Ne.symm h]

/-- A change is made to the entry of its key alone. -/
theorem read_write (c : Cache) (k : Key) (change : Entry → Entry) (k' : Key) :
    (c.write k change).2.read k' = if k' = k then (c.read k).map change else c.read k' := by
  unfold write
  cases hread : c.read k with
  | none =>
      by_cases h : k' = k
      · simp [h, hread]
      · simp [h]
  | some e => simp [read_put]

theorem keep_write (c : Cache) (k : Key) (change : Entry → Entry) :
    (c.write k change).2.keep = c.keep := by
  unfold write
  split <;> rfl

theorem contains_eq (c : Cache) (k : Key) : c.contains k = (c.read k).isSome :=
  Std.ExtTreeMap.contains_eq_isSome_getElem?

end Cache

namespace Session

/-- What a session shows at a key, beside what is known of landed flights and of its history. -/
def cell (s : Session) (k : Key) (landed : Nat → Option Fetch) (hit stored : Option Nat) :
    Cell where
  entry := s.read k
  tags := s.tagging.tagsOf k
  window := s.flights.window? k
  air := fun n => s.fetches[n]?.filter (s.counts k)
  landed := landed
  next := s.flights.nextFlight
  hit := hit
  stored := stored

/-- What is known at every key. -/
def Known (s : Session) : Prop :=
  ∀ k landed hit stored, (s.cell k landed hit stored).Known s.setup k

/-- A state that comes later in the same generation. -/
structure Later (s s' : Session) : Prop where
  setup : s'.setup = s.setup
  generation : s'.generation = s.generation
  next : s.flights.nextFlight ≤ s'.flights.nextFlight
  fetches : ∀ n f, s'.fetches[n]? = some f → s.fetches[n]? = some f ∨
    (s.flights.nextFlight ≤ n ∧ n < s'.flights.nextFlight ∧ f.generation = s.generation)
  tagging : s.tagging.Sound → s'.tagging.Sound

/-- From every key the one state is seen to lead to the other, and no entry is lost. -/
structure Leads (s s' : Session) : Prop where
  later : s.Later s'
  kept : ∀ k, (s.read k).isSome → (s'.read k).isSome
  route : ∀ k landed hit stored, Relation.ReflTransGen (Cell.Step s.setup k)
    (s.cell k landed hit stored) (s'.cell k landed hit stored)

variable {s s' s'' : Session} {k k' : Key} {landed : Nat → Option Fetch}
  {hit stored : Option Nat}

/-- Which fetches count depends on the generation alone. -/
theorem counts_eq (h : s'.generation = s.generation) (k : Key) : s'.counts k = s.counts k := by
  funext f
  simp [counts, h]

/-- A fetch of the present generation counts at its own key. -/
theorem counts_self {f : Fetch} (h : f.generation = s.generation) : s.counts f.key f = true := by
  simp [counts, h]

/-- A state with the same flights and the same tags on record. -/
theorem Later.of_same (hsetup : s'.setup = s.setup) (hgeneration : s'.generation = s.generation)
    (hflights : s'.flights = s.flights) (hfetches : s'.fetches = s.fetches)
    (htagging : s'.tagging = s.tagging) : s.Later s' where
  setup := hsetup
  generation := hgeneration
  next := Nat.le_of_eq (congrArg Flights.nextFlight hflights.symm)
  fetches := by
    intro n f hf
    rw [hfetches] at hf
    exact Or.inl hf
  tagging := by
    rw [htagging]
    exact id

theorem Later.refl (s : Session) : s.Later s := .of_same rfl rfl rfl rfl rfl

/-- What comes later than something later comes later. -/
theorem Later.trans (h : s.Later s') (h' : s'.Later s'') : s.Later s'' where
  setup := h'.setup.trans h.setup
  generation := h'.generation.trans h.generation
  next := Nat.le_trans h.next h'.next
  fetches := by
    intro n f hf
    have hnext := h.next
    have hnext' := h'.next
    rcases h'.fetches n f hf with hf' | ⟨hle, hlt, hgen⟩
    · rcases h.fetches n f hf' with hf'' | ⟨hle, hlt, hgen⟩
      · exact Or.inl hf''
      · exact Or.inr ⟨hle, by omega, hgen⟩
    · exact Or.inr ⟨by omega, hlt, hgen.trans h.generation⟩
  tagging := h'.tagging ∘ h.tagging

/-- What is in the air was in the air before, or has departed since. -/
theorem Later.old_or_new (h : s.Later s') (n : Nat) (f : Fetch)
    (hf : s'.fetches[n]? = some f) :
    s.fetches[n]? = some f ∨ s.flights.nextFlight ≤ n :=
  (h.fetches n f hf).imp_right fun hnew => hnew.1

theorem Leads.refl (s : Session) : s.Leads s :=
  ⟨.refl s, fun _ => id, fun _ _ _ _ => .refl⟩

/-- One state leads to another by way of a third. -/
theorem Leads.trans (h : s.Leads s') (h' : s'.Leads s'') : s.Leads s'' where
  later := h.later.trans h'.later
  kept := fun k hk => h'.kept k (h.kept k hk)
  route := by
    intro k landed hit stored
    have hroute := h'.route k landed hit stored
    rw [h.later.setup] at hroute
    exact (h.route k landed hit stored).trans hroute

/-- Where nothing is seen to happen, nothing happens. -/
theorem Leads.of_cell (hlater : s.Later s')
    (hcell : ∀ k landed hit stored, s'.cell k landed hit stored = s.cell k landed hit stored) :
    s.Leads s' where
  later := hlater
  kept := by
    intro k hk
    have hread : s'.read k = s.read k := congrArg Cell.entry (hcell k (fun _ => none) none none)
    rwa [hread]
  route := by
    intro k landed hit stored
    rw [hcell]

/-- A state with the same entries besides leads nowhere else. -/
theorem Leads.of_same (hsetup : s'.setup = s.setup) (hgeneration : s'.generation = s.generation)
    (hcache : s'.cache = s.cache) (hflights : s'.flights = s.flights)
    (hfetches : s'.fetches = s.fetches) (htagging : s'.tagging = s.tagging) : s.Leads s' := by
  refine .of_cell (.of_same hsetup hgeneration hflights hfetches htagging) ?_
  intro k landed hit stored
  unfold cell read
  rw [hcache, hflights, hfetches, htagging, counts_eq hgeneration]

/-- What is known of every key stays so wherever the state leads. -/
theorem Known.leads (h : s.Known) (hleads : s.Leads s') : s'.Known := by
  intro k landed hit stored
  rw [hleads.later.setup]
  exact (h k landed hit stored).chain (hleads.route k landed hit stored)

/-- The call an entry was made for. -/
theorem Known.serves (h : s.Known) {e : Entry} (hread : s.read k = some e) :
    ∃ endpoint, s.endpoint? e.endpoint = some endpoint ∧ s.setup.Serves k endpoint e.args := by
  obtain ⟨endpoint, hlists, hkey⟩ := (h k (fun _ => none) none none).entry e hread
  exact ⟨endpoint, hlists, ⟨_, hlists⟩, hkey⟩

/-! ## What is not seen -/

/-- An update that is sent leads on. -/
theorem leads_publish (s : Session) (k : Key) : s.Leads (s.publish k) :=
  .of_same rfl rfl rfl rfl rfl rfl

/-- An errand that is asked for leads on. -/
theorem leads_ask (s : Session) (e : Errand) : s.Leads (s.ask e) := by
  unfold ask
  split
  · exact .of_same rfl rfl rfl rfl rfl rfl
  · exact .refl s

/-- A poll that is started leads on. -/
theorem leads_startPolling (s : Session) (k : Key) (interval : Nat) :
    s.Leads (s.startPolling k interval) := by
  unfold startPolling
  split
  · split
    · refine .trans ?_ (leads_ask _ _)
      exact .of_same rfl rfl rfl rfl rfl rfl
    · exact .of_same rfl rfl rfl rfl rfl rfl
  · exact .refl s

end Session

end QueryCache
