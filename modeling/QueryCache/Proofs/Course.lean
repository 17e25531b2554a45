import QueryCache.Proofs.Sight.Writing
import QueryCache.Proofs.Situation
/-!
# The course of a history seen from one key

Each event, whatever it does elsewhere, is at one key a chain of the steps of `Cell.Step`
(`passes_step`).  So what these steps keep holds after every history (`sound_after`), in
whatever order the events come.
-/

namespace QueryCache.Situation

/-- What is seen of a situation at a key. -/
def cell (p : Situation) (k : Key) (hit stored : Option Nat) : Cell :=
  p.session.cell k (fun n => p.landed[n]?.filter (p.session.counts k)) hit stored

/-- What holds of all keys together. -/
structure Tidy (p : Situation) : Prop where
  air : ∀ n f, p.session.fetches[n]? = some f →
    n < p.session.flights.nextFlight ∧ f.generation ≤ p.session.generation
  landed : ∀ n f, p.landed[n]? = some f → n < p.session.flights.nextFlight ∧
    p.session.fetches[n]? = none ∧ f.generation ≤ p.session.generation
  tagging : p.session.tagging.Sound

/-- One situation passes into another, where these keys were declared stale and these flights
brought what was stored. -/
structure Passes (p p' : Situation) (hits : KeySet) (brings : Key → Option Nat) : Prop where
  setup : p'.session.setup = p.session.setup
  generation : p.session.generation ≤ p'.session.generation
  next : p.session.flights.nextFlight ≤ p'.session.flights.nextFlight
  fetches : ∀ n f, p'.session.fetches[n]? = some f →
    p.session.fetches[n]? = some f ∨ p.session.flights.nextFlight ≤ n
  tidy : p'.Tidy
  route : ∀ k hit stored, (p.session.read k = none → hit = none ∧ stored = none) →
    Relation.ReflTransGen (Cell.Step p.session.setup k) (p.cell k hit stored)
      (p'.cell k
        (if (p'.session.read k).isSome then
          if k ∈ hits then some p.session.flights.nextFlight else hit
        else none)
        (if (p'.session.read k).isSome then
          match brings k with
          | some flight => some flight
          | none => stored
        else none))

variable {p p' : Situation} {s : Session} {k : Key} {hit stored : Option Nat}

/-- What is known at each key stays known. -/
theorem Passes.known {hits : KeySet} {brings : Key → Option Nat} (h : p.Passes p' hits brings)
    (hknown : p.session.Known) : p'.session.Known := by
  intro k landed hit stored
  have hroute := h.route k none none fun _ => ⟨rfl, rfl⟩
  have hthere := (hknown k _ none none).chain hroute
  rw [h.setup]
  exact ⟨hthere.entry, hthere.air, hthere.early, hthere.carried⟩

/-- What has landed had landed before, or was in the air and is so no longer. -/
theorem Tidy.later (h : p.Tidy) (hlater : p.session.Later p'.session)
    (hlanded : ∀ (n : Nat) (f : Fetch), p'.landed[n]? = some f → p.landed[n]? = some f ∨
      (p.session.fetches[n]? = some f ∧ p'.session.fetches[n]? = none)) : p'.Tidy where
  air := by
    intro n f hf
    have hnext := hlater.next
    rw [hlater.generation]
    rcases hlater.fetches n f hf with hold | ⟨-, hlt, hgen⟩
    · have := h.air n f hold
      exact ⟨by omega, this.2⟩
    · exact ⟨hlt, Nat.le_of_eq hgen⟩
  landed := by
    intro n f hf
    have hnext := hlater.next
    rw [hlater.generation]
    rcases hlanded n f hf with hold | ⟨hair, hnone⟩
    · obtain ⟨hlt, hnone, hgen⟩ := h.landed n f hold
      refine ⟨by omega, ?_, hgen⟩
      cases hair : p'.session.fetches[n]? with
      | none => rfl
      | some g =>
          rcases hlater.fetches n g hair with hold | ⟨hle, -, -⟩
          · rw [hnone] at hold
            cases hold
          · omega
    · have := h.air n f hair
      exact ⟨by omega, hnone, this.2⟩
  tagging := hlater.tagging h.tagging

/-- A mark lasts as long as the entry. -/
theorem mark_kept {before after : Option Entry} {mark : Option Nat}
    (hkept : before.isSome → after.isSome) (hnone : before = none → mark = none) :
    (if after.isSome then mark else none) = mark := by
  split
  · rfl
  · rename_i hafter
    refine (hnone ?_).symm
    cases before with
    | none => rfl
    | some e => exact absurd (hkept rfl) hafter

theorem session_become (p : Situation) (s : Session) :
    (p.become s).session = s.takeErrands.2 := rfl

theorem landed_become (p : Situation) (s : Session) : (p.become s).landed = p.landed := rfl

/-- Errands may be handed out at any time. -/
theorem leads_takeErrands (s : Session) : s.Leads s.takeErrands.2 :=
  .of_same rfl rfl rfl rfl rfl rfl

/-- A session that follows in the same generation, with its errands taken: what is left to show is
how it is seen from one key. -/
theorem passes_of_later {hits : KeySet} {brings : Key → Option Nat} (htidy : p.Tidy)
    (hlater : p.session.Later s) (hsession : p'.session = s.takeErrands.2)
    (hlanded : ∀ (n : Nat) (f : Fetch), p'.landed[n]? = some f → p.landed[n]? = some f ∨
      (p.session.fetches[n]? = some f ∧ s.fetches[n]? = none))
    (hroute : ∀ k hit stored, (p.session.read k = none → hit = none ∧ stored = none) →
      Relation.ReflTransGen (Cell.Step p.session.setup k) (p.cell k hit stored)
        (s.cell k (fun n => p'.landed[n]?.filter (p.session.counts k))
          (if (s.read k).isSome then
            if k ∈ hits then some p.session.flights.nextFlight else hit
          else none)
          (if (s.read k).isSome then
            match brings k with
            | some flight => some flight
            | none => stored
          else none))) :
    p.Passes p' hits brings where
  setup := by
    rw [hsession]
    exact hlater.setup
  generation := by
    rw [hsession]
    exact Nat.le_of_eq hlater.generation.symm
  next := by
    rw [hsession]
    exact hlater.next
  fetches := by
    rw [hsession]
    exact hlater.old_or_new
  tidy := by
    refine htidy.later ?_ ?_
    · rw [hsession]
      exact hlater.trans (leads_takeErrands s).later
    · rw [hsession]
      exact hlanded
  route := by
    intro k hit stored hnone
    have hread : p'.session.read k = s.read k := by rw [hsession]; rfl
    have hcell : ∀ hit' stored', p'.cell k hit' stored' =
        s.cell k (fun n => p'.landed[n]?.filter (p.session.counts k)) hit' stored' := by
      intro hit' stored'
      unfold cell
      rw [hsession, ← Session.counts_eq hlater.generation k]
      rfl
    rw [hcell, hread]
    exact hroute k hit stored hnone

/-- A declaration passes with the keys it has hit. -/
theorem passes_of_strikes {hits : KeySet} (htidy : p.Tidy)
    (hstrikes : p.session.Strikes hits s) (hsession : p'.session = s.takeErrands.2)
    (hlanded : p'.landed = p.landed) : p.Passes p' hits fun _ => none := by
  refine passes_of_later htidy hstrikes.later hsession (fun n f hf => Or.inl (hlanded ▸ hf)) ?_
  intro k hit stored hnone
  have hstored : (if (s.read k).isSome then stored else none) = stored :=
    mark_kept (hstrikes.kept k) fun h => (hnone h).2
  have hhit : (if (s.read k).isSome then
      if k ∈ hits then some p.session.flights.nextFlight else hit else none) =
      if k ∈ hits ∧ (s.read k).isSome then some p.session.flights.nextFlight else hit := by
    by_cases hk : k ∈ hits
    · simp only [hk, if_true, true_and]
      split
      · rfl
      · rename_i hafter
        refine ((hnone ?_).1).symm
        cases hbefore : p.session.read k with
        | none => rfl
        | some e => exact absurd (hstrikes.kept k (by rw [hbefore]; rfl)) hafter
    · simp only [hk, if_false, false_and]
      exact mark_kept (hstrikes.kept k) fun h => (hnone h).1
  rw [hlanded, hhit]
  simp only [hstored]
  exact hstrikes.route k _ hit stored

/-- What only leads on passes with nothing hit and nothing stored. -/
theorem passes_of_leads (htidy : p.Tidy) (hleads : p.session.Leads s)
    (hsession : p'.session = s.takeErrands.2) (hlanded : p'.landed = p.landed) :
    p.Passes p' ∅ fun _ => none := by
  refine passes_of_strikes htidy ⟨hleads.later, hleads.kept, fun k landed hit stored => ?_⟩
    hsession hlanded
  rw [if_neg fun h => Std.ExtTreeSet.not_mem_empty h.1]
  exact hleads.route k landed hit stored

/-- What loses entries passes with nothing hit and nothing stored. -/
theorem passes_of_loses (htidy : p.Tidy) (hloses : p.session.Loses s)
    (hsession : p'.session = s.takeErrands.2) (hlanded : p'.landed = p.landed) :
    p.Passes p' ∅ fun _ => none := by
  refine passes_of_later htidy hloses.later hsession (fun n f hf => Or.inl (hlanded ▸ hf)) ?_
  intro k hit stored hnone
  have hmiss : ¬ k ∈ (∅ : KeySet) := Std.ExtTreeSet.not_mem_empty
  rw [hlanded, if_neg hmiss]
  simp only
  rcases hloses.seen k with hsame | ⟨e, hbefore, hunwatched, hgone⟩
  · have hentry : s.read k = p.session.read k :=
      congrArg Cell.entry (hsame (fun _ => none) none none)
    rw [hentry, mark_kept id fun h => (hnone h).1, mark_kept id fun h => (hnone h).2, hsame]
    exact .refl
  · have hentry : s.read k = none := congrArg Cell.entry (hgone (fun _ => none) none none)
    rw [hentry, hgone]
    exact .single (.drop hbefore hunwatched)

/-- A fetch that departed before a reset counts no longer. -/
theorem counts_reset {f : Fetch} (hf : f.generation ≤ p.session.generation) (k : Key) :
    (p.become p.session.reset).session.counts k f = false := by
  have hother : f.generation ≠ p.session.generation + 1 := by omega
  simp [Session.counts, become, Session.reset, Session.takeErrands, hother]

/-- A reset leaves nothing to be seen at a key. -/
theorem cell_reset (htidy : p.Tidy) (k : Key) (hit stored : Option Nat) :
    (p.become p.session.reset).cell k none none =
      { (p.cell k hit stored).drop with
        window := none, air := fun _ => none, landed := fun _ => none } := by
  apply Cell.ext
  · simp [cell, Session.cell, become, Session.reset, Session.read, Cache.clear, Cache.read,
      Session.takeErrands, Cell.drop]
  · simp [cell, Session.cell, become, Session.reset, Session.takeErrands, Cell.drop,
      Tagging.empty, Tagging.tagsOf]
  · simp [cell, Session.cell, become, Session.reset, Session.takeErrands, Flights.forgetAll,
      Flights.window?]
  · funext n
    change p.session.fetches[n]?.filter _ = none
    cases hair : p.session.fetches[n]? with
    | none => rfl
    | some f =>
        rw [Option.filter_some, counts_reset (htidy.air n f hair).2]
        rfl
  · funext n
    change p.landed[n]?.filter _ = none
    cases hlanded : p.landed[n]? with
    | none => rfl
    | some f =>
        rw [Option.filter_some, counts_reset (htidy.landed n f hlanded).2.2]
        rfl
  all_goals rfl

/-- A reset passes with nothing hit and nothing stored. -/
theorem passes_reset (htidy : p.Tidy) : p.Passes (p.become p.session.reset) ∅ fun _ => none where
  setup := rfl
  generation := Nat.le_succ _
  next := Nat.le_refl _
  fetches := fun _ _ hf => Or.inl hf
  tidy :=
    { air := by
        intro n f hf
        have := htidy.air n f hf
        exact ⟨this.1, Nat.le_succ_of_le this.2⟩
      landed := by
        intro n f hf
        obtain ⟨hlt, hnone, hgen⟩ := htidy.landed n f hf
        exact ⟨hlt, hnone, Nat.le_succ_of_le hgen⟩
      tagging := Tagging.Sound.empty }
  route := by
    intro k hit stored _
    have hread : (p.become p.session.reset).session.read k = none :=
      congrArg Cell.entry (cell_reset htidy k none none)
    rw [hread]
    simp only [Option.isSome_none, Bool.false_eq_true, if_false]
    rw [cell_reset htidy k hit stored]
    exact .single .clear

section Land

variable {now flight : Nat} {f : Fetch}

/-- A flight that lands goes on record where it counts. -/
theorem landed_insert (htidy : p.Tidy) (hair : p.session.fetches[flight]? = some f) (k : Key) :
    (fun n => (p.landed.insert flight f)[n]?.filter (p.session.counts k)) =
      if p.session.counts k f = true then
        fun n => if n = flight then some f else p.landed[n]?.filter (p.session.counts k)
      else fun n => p.landed[n]?.filter (p.session.counts k) := by
  have hnew : p.landed[flight]? = none := by
    cases hlanded : p.landed[flight]? with
    | none => rfl
    | some g =>
        have := (htidy.landed flight g hlanded).2.1
        rw [hair] at this
        cases this
  funext n
  rw [Std.ExtTreeMap.getElem?_insert]
  by_cases hn : n = flight
  · subst hn
    by_cases hcounts : p.session.counts k f = true
    · simp [hcounts]
    · simp [hcounts, hnew]
  · simp only [Std.compare_eq_iff_eq, Ne.symm hn, if_false]
    split
    · exact (if_neg hn).symm
    · rfl

/-- A landing passes with nothing hit; what it stores is stored under the key of its fetch. -/
theorem passes_land (hknown : p.session.Known) (htidy : p.Tidy)
    (hair : p.session.fetches[flight]? = some f) (brought : Except Failure Json) :
    p.Passes
      { p.become (p.session.land now flight f brought).2 with
        landed := p.landed.insert flight f }
      ∅ fun k => p.stores k (.land flight brought) := by
  refine passes_of_later htidy (Session.later_land p.session now flight f brought) rfl ?_ ?_
  · intro n g hg
    simp only [Std.ExtTreeMap.getElem?_insert] at hg
    by_cases hn : flight = n
    · subst hn
      right
      rw [if_pos Std.compare_self] at hg
      exact ⟨hg ▸ hair, Session.fetches_land p.session now flight f brought⟩
    · left
      rwa [if_neg (by simpa using hn)] at hg
  intro k hit stored hnone
  have hmiss : ¬ k ∈ (∅ : KeySet) := Std.ExtTreeSet.not_mem_empty
  have hpresent : ((p.session.land now flight f brought).2.read k).isSome =
      (p.session.read k).isSome := Session.present_land hknown hair brought k
  have hhit : (if (p.session.read k).isSome then hit else none) = hit :=
    mark_kept id fun h => (hnone h).1
  have hstored : (if (p.session.read k).isSome then stored else none) = stored :=
    mark_kept id fun h => (hnone h).2
  rw [landed_insert htidy hair]
  simp only [if_neg hmiss, hpresent, hhit]
  cases hhere : p.session.counts k f with
  | false =>
      have hstores : p.stores k (.land flight brought) = none := by
        cases brought <;> simp [stores, hair, hhere]
      simp only [hstores, hstored, Bool.false_eq_true, if_false]
      rw [Session.cell_land_ne hknown hair hhere]
      exact .refl
  | true =>
      cases brought with
      | ok value =>
          have hstores : p.stores k (.land flight (.ok value)) = some flight := by
            simp [stores, hair, hhere]
          have hmark : (if (p.session.read k).isSome then some flight else none) =
              if (p.session.read k).isSome then some flight else stored := by
            split
            · rfl
            · rename_i habsent
              exact ((hnone (by simpa using habsent)).2).symm
          simp only [hstores, hmark, if_true]
          exact .single (Session.step_land_ok hair hhere value)
      | error failure =>
          have hstores : p.stores k (.land flight (.error failure)) = none := rfl
          simp only [hstores, hstored, if_true]
          exact .single (Session.step_land_error hair hhere failure)

/-- A flight that has been followed up goes off the record where it counted. -/
theorem landed_erase (hlanded : p.landed[flight]? = some f) (k : Key) :
    (fun n => (p.landed.erase flight)[n]?.filter (p.session.counts k)) =
      if p.session.counts k f = true then
        fun n => if n = flight then none else p.landed[n]?.filter (p.session.counts k)
      else fun n => p.landed[n]?.filter (p.session.counts k) := by
  funext n
  rw [Std.ExtTreeMap.getElem?_erase]
  by_cases hn : n = flight
  · subst hn
    cases hcounts : p.session.counts k f with
    | true => simp
    | false => simp [hlanded, Option.filter_some, hcounts]
  · simp only [Std.compare_eq_iff_eq, Ne.symm hn, if_false]
    split
    · exact (if_neg hn).symm
    · rfl

/-- A follow-up passes with nothing hit and nothing stored. -/
theorem passes_followUp (hknown : p.session.Known) (htidy : p.Tidy)
    (hlanded : p.landed[flight]? = some f) :
    p.Passes { p.become (p.session.followUp f) with landed := p.landed.erase flight }
      ∅ fun _ => none := by
  have hleads := Session.leads_followUp hknown f
  refine passes_of_later htidy hleads.later rfl ?_ ?_
  · intro n g hg
    simp only [Std.ExtTreeMap.getElem?_erase] at hg
    split at hg
    · cases hg
    · exact Or.inl hg
  intro k hit stored hnone
  have hmiss : ¬ k ∈ (∅ : KeySet) := Std.ExtTreeSet.not_mem_empty
  rw [landed_erase hlanded]
  simp only [if_neg hmiss]
  rw [mark_kept (hleads.kept k) fun h => (hnone h).1,
    mark_kept (hleads.kept k) fun h => (hnone h).2]
  have hroute := hleads.route k (fun n => p.landed[n]?.filter (p.session.counts k)) hit stored
  cases hhere : p.session.counts k f with
  | false =>
      simp only [Bool.false_eq_true, if_false]
      exact hroute
  | true =>
      obtain ⟨hkey, hgen⟩ : f.key = k ∧ f.generation = p.session.generation := by
        simpa [Session.counts] using hhere
      simp only [if_true]
      refine .tail hroute (.settle (n := flight) (f := f) ?_ ?_)
      · simp [Session.cell, hlanded, hhere]
      · intro e hread hepoch hwatched
        subst hkey
        exact Session.followUp_done hknown hgen.symm hread hepoch hwatched

end Land

/-- An event with no effect passes with nothing hit and nothing stored. -/
theorem passes_refl (htidy : p.Tidy) : p.Passes p ∅ fun _ => none where
  setup := rfl
  generation := Nat.le_refl _
  next := Nat.le_refl _
  fetches := fun _ _ hf => Or.inl hf
  tidy := htidy
  route := by
    intro k hit stored hnone
    have hmiss : ¬ k ∈ (∅ : KeySet) := Std.ExtTreeSet.not_mem_empty
    simp only [if_neg hmiss]
    rw [mark_kept id fun h => (hnone h).1, mark_kept id fun h => (hnone h).2]

/-- A call that is looked up belongs to an endpoint listed under its own name. -/
theorem lists_of_lookup (hnamed : s.setup.WellNamed) {name : String} {endpoint : Endpoint}
    (hok : s.lookup name = .ok endpoint) : s.setup.Lists endpoint.name endpoint := by
  unfold Session.lookup Session.endpoint? at hok
  cases hlists : s.setup.endpoints[name]? with
  | none => simp [hlists] at hok
  | some found =>
      obtain rfl : found = endpoint := by simpa [hlists] using hok
      rw [hnamed name found hlists]
      exact hlists

/-- **Every event is seen as steps.** -/
theorem passes_step (hnamed : p.session.setup.WellNamed) (hknown : p.session.Known)
    (htidy : p.Tidy) (now : Nat) (e : Event) :
    p.Passes (p.step now e) (p.declares e) fun k => p.stores k e := by
  have hoccurs := p.occurs_step now e
  generalize p.step now e = p' at hoccurs ⊢
  cases hoccurs with
  | nothing hdeclares hstores =>
      rw [hdeclares, funext hstores]
      exact passes_refl htidy
  | subscribe hlookup args =>
      exact passes_of_leads htidy
        (Session.leads_subscribe hknown (lists_of_lookup hnamed hlookup) now args) rfl rfl
  | unsubscribe ticket =>
      exact passes_of_leads htidy (Session.leads_unsubscribe p.session now ticket) rfl rfl
  | query hlookup args =>
      exact passes_of_leads htidy
        (Session.leads_query hknown (lists_of_lookup hnamed hlookup) now args) rfl rfl
  | refetch k | ticks => exact passes_of_leads htidy (Session.leads_refetch hknown _) rfl rfl
  | @ends k serial =>
      refine passes_of_leads htidy
        (s := { p.session with polls := p.session.polls.finish k serial }) ?_ rfl rfl
      exact .of_same rfl rfl rfl rfl rfl rfl
  | evict k => exact passes_of_loses htidy (Session.loses_evict p.session now k) rfl rfl
  | collect => exact passes_of_loses htidy (Session.loses_collect p.session now) rfl rfl
  | reset => exact passes_reset htidy
  | invalidate tags =>
      exact passes_of_strikes htidy (Session.strikes_invalidate hknown htidy.tagging tags)
        (session_become p _) (landed_become p _)
  | write mutation args edits =>
      exact passes_of_leads htidy (Session.leads_beginWrite p.session edits) rfl rfl
  | @confirm write u hwrite response =>
      simp only [declares, stores, hwrite]
      exact passes_of_strikes htidy
        (Session.strikes_confirm hknown htidy.tagging u.write u.mutation u.args response)
        (session_become p _) rfl
  | giveUp hwrite failure =>
      exact passes_of_leads htidy (Session.leads_giveUp p.session _ failure) rfl rfl
  | cancel => exact passes_of_leads htidy (Session.leads_withdraw p.session _) rfl rfl
  | land hair brought => exact passes_land hknown htidy hair brought
  | followUp hlanded => exact passes_followUp hknown htidy hlanded
  | standIn =>
      exact passes_of_leads htidy (s := p.session.standIn.2) (.of_same rfl rfl rfl rfl rfl rfl)
        rfl rfl

/-! ## Histories -/

/-- What is seen at a key after a history. -/
def cellAfter (setup : Setup) (k : Key) (h : History) : Cell :=
  (after setup h).cell k (lastHit setup k h) (lastStored setup k h)

variable {setup : Setup} {h : History}

/-- Nothing has landed at the start, and nothing is in the air. -/
theorem tidy_start (setup : Setup) : (start setup).Tidy where
  air := by
    intro n f hf
    simp [start, Session.start] at hf
  landed := by
    intro n f hf
    simp [start] at hf
  tagging := Tagging.Sound.empty

/-- There are no entries at the start. -/
theorem read_start (setup : Setup) (k : Key) : (start setup).session.read k = none := by
  simp [start, Session.start, Session.read, Cache.empty, Cache.read]

/-- There are no windows at the start. -/
theorem window?_start (setup : Setup) (k : Key) :
    (start setup).session.flights.window? k = none := by
  simp [start, Session.start, Flights.empty, Flights.window?]

/-- What is known of every key is so at the start. -/
theorem known_start (setup : Setup) : (start setup).session.Known := by
  intro k landed hit stored
  refine ⟨fun e he => ?_, fun n f hf => ?_, fun n f hf => ?_, fun n hn => ?_⟩
  · cases (read_start setup k).symm.trans he
  · simp [Session.cell, start, Session.start] at hf
  · simp [Session.cell, start, Session.start] at hf
  · cases (window?_start setup k).symm.trans hn

/-- What holds of all keys together holds after every history. -/
theorem tidy_after (hnamed : setup.WellNamed) (h : History) :
    (after setup h).session.setup = setup ∧ (after setup h).Tidy ∧
      (after setup h).session.Known := by
  induction h with
  | nil => exact ⟨rfl, tidy_start setup, known_start setup⟩
  | cons event h ih =>
      obtain ⟨now, e⟩ := event
      obtain ⟨hsetup, htidy, hknown⟩ := ih
      have hpasses := passes_step (by rw [hsetup]; exact hnamed) hknown htidy now e
      exact ⟨hpasses.setup.trans hsetup, hpasses.tidy, hpasses.known hknown⟩

/-- With the entry its marks are gone. -/
theorem marks_absent (hread : (after setup h).session.read k = none) :
    lastHit setup k h = none ∧ lastStored setup k h = none := by
  cases h with
  | nil => exact ⟨rfl, rfl⟩
  | cons event h =>
      have habsent : ((after setup h).step event.1 event.2).session.cache.contains k = false := by
        have hread' : ((after setup h).step event.1 event.2).session.cache.read k = none := hread
        rw [Cache.contains_eq, hread']
        rfl
      simp [lastHit, lastStored, habsent]

/-- Each event adds its steps. -/
theorem chain_after (hnamed : setup.WellNamed) (k : Key) (now : Nat) (e : Event) (h : History) :
    Relation.ReflTransGen (Cell.Step setup k) (cellAfter setup k h)
      (cellAfter setup k ((now, e) :: h)) := by
  obtain ⟨hsetup, htidy, hknown⟩ := tidy_after hnamed h
  have hpasses := passes_step (by rw [hsetup]; exact hnamed) hknown htidy now e
  have hroute := hpasses.route k (lastHit setup k h) (lastStored setup k h) marks_absent
  rw [hsetup] at hroute
  have hcontains := ((after setup h).step now e).session.cache.contains_eq k
  unfold cellAfter
  rw [lastHit, lastStored, hcontains]
  exact hroute

/-- What is known of a key is so after every history. -/
theorem known_cellAfter (hnamed : setup.WellNamed) (k : Key) (h : History) :
    (cellAfter setup k h).Known setup k := by
  obtain ⟨hsetup, -, hknown⟩ := tidy_after hnamed h
  have hhere := hknown k (fun n => (after setup h).landed[n]?.filter
    ((after setup h).session.counts k)) (lastHit setup k h) (lastStored setup k h)
  rwa [hsetup] at hhere

/-- **The invariant of shared flights.**  It holds at every key after every history. -/
theorem sound_after (hnamed : setup.WellNamed) (hshares : setup.Shares k) (h : History) :
    (cellAfter setup k h).Sound := by
  induction h with
  | nil =>
      refine .of_nothing (read_start setup k) ?_ rfl rfl fun n => ?_
      · simp [cellAfter, cell, Session.cell, after, start, Session.start, Tagging.empty,
          Tagging.tagsOf]
      · simp [cellAfter, cell, Session.cell, after, start, Session.start]
  | cons event h ih =>
      obtain ⟨now, e⟩ := event
      exact ih.chain hshares (known_cellAfter hnamed k h) (chain_after hnamed k now e h)

/-- A flight that counts at a key is seen there. -/
theorem air_cellAfter {flight : Nat} {f : Fetch}
    (hair : (after setup h).session.fetches[flight]? = some f)
    (hcounts : (after setup h).session.counts k f = true) :
    (cellAfter setup k h).air flight = some f := by
  simp [cellAfter, cell, Session.cell, hair, hcounts]

end QueryCache.Situation
