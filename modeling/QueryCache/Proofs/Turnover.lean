import QueryCache.Proofs.Attendance
import QueryCache.Proofs.Course
/-!
# Who comes and who goes

`Turnover` lists everything that an event can do to the attendance of entries, to the polls and to
the chores asked for; whatever else it does is among `Tells`.  One case is one operation of the
session, told by what it needs to have found and what it leaves behind (`turnover_step`).
-/

namespace QueryCache

namespace Session

/-- With a poll set up for a key, if there is an interval to poll it at: the polls, and what is
asked for. -/
def setsOut (s : Session) (k : Key) : Option Nat → Polls × List Errand
  | none => (s.polls, [])
  | some interval => ((s.polls.register k interval).2,
      (s.polls.register k interval).1.toList.map fun serial => .poll k serial interval)

/-- The interval at which a poll starts when an entry is attended like this by somebody who has
just come. -/
def startsAt (s : Session) (endpoint : Endpoint) (a : Attendance) : Option Nat :=
  if s.setup.background = true ∧ a.subscribers.size = 1 then s.pollInterval? endpoint else none

/-- The start of a grace period is asked for. -/
def graces (s : Session) (k : Key) : List Errand :=
  if s.setup.background then [.grace k] else []

/-- One key is attended like this now, and the others as before; and nothing else is to be seen
than before, but for what was told. -/
structure Seats (s s' : Session) (k : Key) (a : Attendance) : Prop where
  setup : s'.setup = s.setup
  keep : s'.cache.keep = s.cache.keep
  attendance : ∀ k', s'.attendance k' = if k' = k then some a else s.attendance k'
  told : s.Told [] s'

/-- The entries of these keys are gone, and the others are as they were. -/
structure Drops (s s' : Session) (l : List Key) : Prop where
  setup : s'.setup = s.setup
  keep : s'.cache.keep = s.cache.keep
  read : ∀ k, s'.read k = if k ∈ l then none else s.read k
  updates : s'.updates = s.updates
  polls : s'.polls = s.polls ∨ s'.polls = l.foldl (fun p k => (p.unregister k).2) s.polls
  chores : s'.chores = s.chores

inductive Turnover (now : Nat) (s : Session) : Event → Session → Prop
  /-- Nobody comes or goes. -/
  | tells {e : Event} {s' : Session} (htells : s.Tells [] s') : Turnover now s e s'
  | comes {name : String} {args : Json} {s' : Session} {endpoint : Endpoint} {a : Attendance}
      {subscriber : Nat} (hlookup : s.lookup name = .ok endpoint)
      (hthere : a = (s.attendance (endpoint.keyOf args)).getD (.made endpoint.name now))
      (hseats : s.Seats s' (endpoint.keyOf args) (a.joinedBy subscriber))
      (hpolls : s'.polls =
        (s.setsOut (endpoint.keyOf args) (s.startsAt endpoint (a.joinedBy subscriber))).1)
      (hchores : s'.chores = s.chores ++
        (s.setsOut (endpoint.keyOf args) (s.startsAt endpoint (a.joinedBy subscriber))).2) :
      Turnover now s (.subscribe name args) s'
  | leaves {t : Ticket} {s' : Session} {a : Attendance} (hthere : s.attendance t.key = some a)
      (hmem : t.id ∈ a.subscribers) (hrest : (a.leftBy t.id now).isWatched = true)
      (hseats : s.Seats s' t.key (a.leftBy t.id now)) (hpolls : s'.polls = s.polls)
      (hchores : s'.chores = s.chores) : Turnover now s (.unsubscribe t) s'
  /-- The last one leaves. -/
  | leavesLast {t : Ticket} {s' : Session} {a : Attendance}
      (hthere : s.attendance t.key = some a) (hmem : t.id ∈ a.subscribers)
      (hrest : (a.leftBy t.id now).isWatched = false)
      (hseats : s.Seats s' t.key (a.leftBy t.id now))
      (hpolls : s'.polls = (s.polls.unregister t.key).2)
      (hchores : s'.chores = s.chores ++ s.graces t.key) : Turnover now s (.unsubscribe t) s'
  /-- An entry is made for somebody who does not stay. -/
  | makes {name : String} {args : Json} {s' : Session} {endpoint : Endpoint}
      (hlookup : s.lookup name = .ok endpoint) (hnone : s.attendance (endpoint.keyOf args) = none)
      (hseats : s.Seats s' (endpoint.keyOf args) (.made endpoint.name now))
      (hpolls : s'.polls = s.polls)
      (hchores : s'.chores = s.chores ++ s.graces (endpoint.keyOf args)) :
      Turnover now s (.query name args) s'
  /-- Entries are dropped at the end of their grace. -/
  | drops {e : Event} {s' : Session} {l : List Key}
      (hover : ∀ k ∈ l, ∃ a, s.attendance k = some a ∧ a.Over now s.cache.keep)
      (hdrops : s.Drops s' l) : Turnover now s e s'
  | clears : Turnover now s .reset s.reset
  /-- A poll finds nobody. -/
  | ends {k : Key} {serial : Nat} (hunwatched : s.isWatched k = false) :
      Turnover now s (.tick k serial) { s with polls := s.polls.finish k serial }

variable {s s' : Session} {k : Key}

/-! ## Coming -/

/-- The session with such a poll. -/
def withPoll (s : Session) (k : Key) (interval : Option Nat) : Session :=
  { s with polls := (s.setsOut k interval).1, errands := s.errands ++ (s.setsOut k interval).2 }

theorem withPoll_none (s : Session) (k : Key) : s.withPoll k none = s := by
  simp [withPoll, setsOut]

/-- A poll starts where there is a background, at the interval given. -/
theorem startPolling_eq (s : Session) (k : Key) (interval : Nat) :
    s.startPolling k interval =
      s.withPoll k (if s.setup.background then some interval else none) := by
  unfold startPolling
  cases hback : s.setup.background with
  | false => simp [withPoll_none]
  | true =>
      simp only [if_true, withPoll, setsOut]
      cases hregister : s.polls.register k interval with
      | mk serial polls => cases serial <;> simp [ask, hback]

/-- What is asked for besides fetches adds up. -/
theorem chores_append (s : Session) (l : List Errand) (hl : ∀ e ∈ l, e.isChore = true)
    (herrands : s'.errands = s.errands ++ l) : s'.chores = s.chores ++ l := by
  unfold chores
  rw [herrands, List.filter_append, List.filter_eq_self.mpr hl]

/-- A poll that sets out asks for chores alone. -/
theorem isChore_setsOut (s : Session) (k : Key) (interval : Option Nat) :
    ∀ e ∈ (s.setsOut k interval).2, e.isChore = true := by
  cases interval with
  | none => simp [setsOut]
  | some interval =>
      intro e he
      obtain ⟨serial, -, rfl⟩ := List.mem_map.mp he
      rfl

/-- The entry of a call, made or found. -/
theorem attendance_entryFor (s : Session) (k : Key) (endpoint : String) (args : Json) (now : Nat) :
    (s.cache.entryFor k endpoint args now).attendance =
      (s.attendance k).getD (.made endpoint now) := by
  unfold Cache.entryFor attendance read
  cases s.cache.read k <;> rfl

/-- An entry that is made for a call shows what was to be seen without it. -/
theorem ofEntry_entryFor (s : Session) (k : Key) (endpoint : String) (args : Json) (now : Nat) :
    Display.ofEntry (s.cache.entryFor k endpoint args now) = s.displayAt k := by
  unfold Cache.entryFor displayAt read
  cases s.cache.read k <;> rfl

/-- Another entry takes the place of one, and looks the same. -/
theorem seats_put {cache : Cache} {e : Entry} (hkeep : cache.keep = s.cache.keep)
    (hcache : ∀ k', cache.read k' = if k' = k then some e else s.read k')
    (hdisplay : Display.ofEntry e = s.displayAt k) :
    s.Seats { s with cache := cache } k e.attendance where
  setup := rfl
  keep := hkeep
  attendance := by
    intro k'
    change (cache.read k').map Entry.attendance = _
    rw [hcache]
    split <;> rfl
  told := by
    refine .of_same rfl fun k' => ?_
    change Display.ofLookup (cache.read k') = _
    rw [hcache]
    split
    · rename_i hk
      rw [hk]
      exact hdisplay
    · rfl

/-- What is told of afterwards leaves everyone seated. -/
theorem Seats.tells {s'' : Session} {a : Attendance} (h : s.Seats s' k a) (h' : s'.Tells [] s'') :
    s.Seats s'' k a where
  setup := h'.attends.setup.trans h.setup
  keep := h'.attends.keep.trans h.keep
  attendance := fun k' => (h'.attends.attendance k').trans (h.attendance k')
  told := h.told.trans h'.told

/-- The entry that a subscriber finds, with that subscriber counted in. -/
def entered (s : Session) (now : Nat) (endpoint : Endpoint) (args : Json) : Entry :=
  (s.cache.entryFor (endpoint.keyOf args) endpoint.name args now).watchedBy s.cache.nextSubscriber

def joined (s : Session) (now : Nat) (endpoint : Endpoint) (args : Json) : Session :=
  { s with cache := (s.cache.subscribe (endpoint.keyOf args) endpoint.name args now).2 }

/-- The session with a subscriber who is served. -/
def served (s : Session) (now : Nat) (endpoint : Endpoint) (args : Json) : Session :=
  if (s.joined now endpoint args).needsFetch now endpoint (s.entered now endpoint args) then
    (s.joined now endpoint args).refetch (endpoint.keyOf args)
  else s.joined now endpoint args

/-- A subscriber who has come is served, and nobody else comes or goes. -/
theorem tells_served (s : Session) (now : Nat) (endpoint : Endpoint) (args : Json) :
    (s.joined now endpoint args).Tells [] (s.served now endpoint args) := by
  unfold served
  split
  · exact tells_refetch _ _
  · exact .refl _

/-- Who subscribes is counted in, is served, and starts the poll if there is one to start. -/
theorem subscribe_eq (s : Session) (now : Nat) (endpoint : Endpoint) (args : Json) :
    (s.subscribe now endpoint args).2 = (s.served now endpoint args).withPoll
      (endpoint.keyOf args) (s.startsAt endpoint (s.entered now endpoint args).attendance) := by
  have hread : (s.joined now endpoint args).read (endpoint.keyOf args) =
      some (s.entered now endpoint args) :=
    (s.cache.read_put (endpoint.keyOf args) _ (endpoint.keyOf args)).trans (if_pos rfl)
  have hsetup : (s.served now endpoint args).setup = s.setup :=
    (tells_served s now endpoint args).attends.setup
  have hinterval : (s.served now endpoint args).pollInterval? endpoint =
      s.pollInterval? endpoint := by
    unfold pollInterval?
    rw [hsetup]
  have hstarts : s.startsAt endpoint (s.entered now endpoint args).attendance =
      if s.setup.background = true ∧ (s.entered now endpoint args).subscribers.size = 1 then
        s.pollInterval? endpoint
      else none := rfl
  unfold subscribe
  simp only
  split
  · rename_i hnone
    cases hread.symm.trans hnone
  · rename_i e hsome
    cases hread.symm.trans hsome
    split
    · rename_i interval hpolled
      have hsome : s.pollInterval? endpoint = some interval := hinterval.symm.trans hpolled
      rw [hsome] at hstarts
      by_cases hfirst : (s.entered now endpoint args).subscribers.size = 1
      · have hstart := startPolling_eq (s.served now endpoint args) (endpoint.keyOf args) interval
        simp only [hfirst, and_true] at hstarts
        rw [hsetup] at hstart
        rw [if_pos hfirst, hstarts]
        exact hstart
      · have hnostart : s.startsAt endpoint (s.entered now endpoint args).attendance = none :=
          hstarts.trans (if_neg fun h => hfirst h.2)
        rw [if_neg hfirst, hnostart, withPoll_none]
        rfl
    · rename_i hpolled
      have hnone : s.pollInterval? endpoint = none := hinterval.symm.trans hpolled
      rw [hstarts, hnone, ite_self, withPoll_none]
      rfl

/-- One more is seated at the key when a subscriber is served. -/
theorem seats_served (s : Session) (now : Nat) (endpoint : Endpoint) (args : Json) :
    s.Seats (s.served now endpoint args) (endpoint.keyOf args)
      (s.entered now endpoint args).attendance := by
  have hjoined : s.Seats (s.joined now endpoint args) (endpoint.keyOf args)
      (s.entered now endpoint args).attendance :=
    seats_put rfl (s.cache.read_put (endpoint.keyOf args) _)
      (ofEntry_entryFor s (endpoint.keyOf args) endpoint.name args now)
  exact hjoined.tells (tells_served s now endpoint args)

/-- A poll leaves everyone seated. -/
theorem Seats.withPoll {a : Attendance} (h : s.Seats s' k a) (k' : Key) (interval : Option Nat) :
    s.Seats (s'.withPoll k' interval) k a :=
  ⟨h.setup, h.keep, h.attendance, h.told.capacity, h.told.sent⟩

/-- A subscription is a turnover. -/
theorem turnover_subscribe {name : String} {endpoint : Endpoint}
    (hlookup : s.lookup name = .ok endpoint) (now : Nat) (args : Json) :
    s.Turnover now (.subscribe name args) (s.subscribe now endpoint args).2 := by
  have htells := (tells_served s now endpoint args).attends
  have hseats := seats_served s now endpoint args
  have hpolls : (s.served now endpoint args).polls = s.polls := htells.polls
  have hchores : (s.served now endpoint args).chores = s.chores := htells.chores
  have hjoined : (s.entered now endpoint args).attendance =
      ((s.attendance (endpoint.keyOf args)).getD (.made endpoint.name now)).joinedBy
        s.cache.nextSubscriber := by
    rw [← attendance_entryFor s (endpoint.keyOf args) endpoint.name args now]
    rfl
  have hsetsOut : (s.served now endpoint args).setsOut = s.setsOut := by
    funext k interval
    cases interval <;> simp [setsOut, hpolls]
  rw [hjoined] at hseats
  rw [subscribe_eq, hjoined]
  refine .comes hlookup rfl (hseats.withPoll _ _) ?_ ?_
  · simp only [withPoll, hsetsOut]
  · rw [← hchores, ← hsetsOut]
    exact chores_append _ _ (isChore_setsOut _ _ _) rfl

/-! ## Going -/

/-- A grace period that is asked for is among the chores, if there is a background. -/
theorem chores_ask_grace (s : Session) (k : Key) :
    (s.ask (.grace k)).chores = s.chores ++ s.graces k := by
  unfold ask graces
  split
  · exact chores_append s _ (by simp [Errand.isChore]) rfl
  · exact (List.append_nil _).symm

/-- What is asked for leaves everyone seated. -/
theorem Seats.ask {a : Attendance} (h : s.Seats s' k a) (e : Errand) :
    s.Seats (s'.ask e) k a := by
  unfold Session.ask
  split
  · exact ⟨h.setup, h.keep, h.attendance, h.told.capacity, h.told.sent⟩
  · exact h

/-- A subscriber who leaves is a turnover. -/
theorem turnover_unsubscribe (s : Session) (now : Nat) (t : Ticket) :
    s.Turnover now (.unsubscribe t) (s.unsubscribe now t) := by
  have hnobody : s.Turnover now (.unsubscribe t) s := .tells (.refl s)
  unfold unsubscribe Cache.unsubscribe
  cases hread : s.cache.read t.key with
  | none => exact hnobody
  | some e =>
      by_cases hmem : t.id ∈ e.subscribers
      · have hthere : s.attendance t.key = some e.attendance :=
          congrArg (Option.map Entry.attendance) hread
        have hdisplay : Display.ofEntry (e.leftBy t.id now) = s.displayAt t.key :=
          congrArg Display.ofLookup hread.symm
        have hseats : s.Seats { s with cache := s.cache.put t.key (e.leftBy t.id now) } t.key
            (e.leftBy t.id now).attendance :=
          seats_put rfl (s.cache.read_put t.key _) hdisplay
        have hwatched : (e.attendance.leftBy t.id now).isWatched =
            !((e.leftBy t.id now).subscribers.size == 0) :=
          congrArg not Std.ExtTreeSet.isEmpty_eq_size_beq_zero
        simp only [hmem, if_true, Option.some.injEq]
        by_cases hlast : (e.leftBy t.id now).subscribers.size = 0
        · rw [if_pos hlast]
          refine .leavesLast hthere hmem ?_ (Seats.ask ?_ _) ?_ (chores_ask_grace _ t.key)
          · rw [hwatched, hlast]
            rfl
          · exact ⟨hseats.setup, hseats.keep, hseats.attendance, hseats.told.capacity,
              hseats.told.sent⟩
          · unfold Session.ask
            split <;> rfl
        · rw [if_neg hlast]
          refine .leaves hthere hmem ?_ hseats rfl rfl
          rw [hwatched]
          simpa using hlast
      · simp only [hmem, if_false]
        exact hnobody

/-! ## Asking -/

/-- Whoever only asks makes the entry if there is none, and changes nothing else about who
watches. -/
theorem turnover_query {name : String} {endpoint : Endpoint}
    (hlookup : s.lookup name = .ok endpoint) (now : Nat) (args : Json) :
    s.Turnover now (.query name args) (s.query now endpoint args).2 := by
  let k := endpoint.keyOf args
  let e := s.cache.entryFor k endpoint.name args now
  let made : Session := { s with cache := s.cache.put k e }
  let asked := if s.cache.contains k then made else made.ask (.grace k)
  have hquery : asked.Tells [] (s.query now endpoint args).2 := by
    unfold query
    simp only
    split
    · exact .refl asked
    · exact tells_launch asked k endpoint args _
  have hmade : s.Seats made k ((s.attendance k).getD (.made endpoint.name now)) := by
    rw [← attendance_entryFor s k endpoint.name args now]
    exact seats_put rfl (s.cache.read_put k e) (ofEntry_entryFor s k endpoint.name args now)
  have hcontains : s.cache.contains k = (s.read k).isSome := s.cache.contains_eq k
  cases hread : s.read k with
  | some found =>
      have hthere : s.attendance k = some found.attendance :=
        congrArg (Option.map Entry.attendance) hread
      have hasked : asked = made := if_pos (by rw [hcontains, hread]; rfl)
      rw [hasked] at hquery
      rw [hthere] at hmade
      have hsame : s.Tells [] made := by
        refine ⟨⟨rfl, rfl, fun k' => ?_, rfl, rfl⟩, hmade.told⟩
        rw [hmade.attendance]
        split
        · rename_i hk
          rw [hk, hthere]
          rfl
        · rfl
      exact .tells (hsame.chain hquery)
  | none =>
      have hnone : s.attendance k = none := congrArg (Option.map Entry.attendance) hread
      have hasked : asked = made.ask (.grace k) :=
        if_neg (by rw [hcontains, hread]; exact Bool.false_ne_true)
      have hpolls : asked.polls = s.polls := by
        rw [hasked]
        unfold Session.ask
        split <;> rfl
      have hchores : asked.chores = s.chores ++ s.graces k := by
        rw [hasked]
        exact chores_ask_grace made k
      rw [hnone] at hmade
      have hseats : s.Seats asked k (.made endpoint.name now) := by
        rw [hasked]
        exact hmade.ask _
      exact .makes hlookup hnone (hseats.tells hquery) (hquery.attends.polls.trans hpolls)
        (hquery.attends.chores.trans hchores)

/-! ## Dropping -/

theorem polls_foldl_forget (l : List Key) (s : Session) : (l.foldl forget s).polls = s.polls := by
  induction l generalizing s with
  | nil => rfl
  | cons k l ih => exact ih (s.forget k)

/-- Keys that are removed and forgotten are dropped. -/
theorem drops_foldl_forget (l : List Key) (s : Session) :
    s.Drops (l.foldl forget { s with cache := l.foldl Cache.remove s.cache }) l := by
  have hremoves : ∀ (l : List Key) (c : Cache), (l.foldl Cache.remove c).keep = c.keep := by
    intro l
    induction l with
    | nil => exact fun _ => rfl
    | cons k l ih => exact fun c => ih (c.remove k)
  have hforgets : ∀ (l : List Key) (s : Session), (l.foldl forget s).setup = s.setup ∧
      (l.foldl forget s).cache = s.cache ∧ (l.foldl forget s).updates = s.updates ∧
      (l.foldl forget s).errands = s.errands := by
    intro l
    induction l with
    | nil => exact fun _ => ⟨rfl, rfl, rfl, rfl⟩
    | cons k l ih => exact fun s => ih (s.forget k)
  obtain ⟨hsetup, hcache, hupdates, herrands⟩ :=
    hforgets l { s with cache := l.foldl Cache.remove s.cache }
  refine ⟨hsetup, ?_, fun k => ?_, hupdates, Or.inl (polls_foldl_forget l _), ?_⟩
  · rw [hcache]
    exact hremoves l s.cache
  · unfold read
    rw [hcache]
    exact read_removes l s.cache k
  · unfold chores
    rw [herrands]

/-- What may be dropped has been without anybody for the whole grace period. -/
theorem over_of_isEvictable {now : Nat} (h : s.cache.isEvictable k now = true) :
    ∃ a, s.attendance k = some a ∧ a.Over now s.cache.keep := by
  unfold Cache.isEvictable at h
  cases hread : s.cache.read k with
  | none => simp [hread] at h
  | some e =>
      rw [hread] at h
      exact ⟨e.attendance, congrArg (Option.map Entry.attendance) hread,
        Entry.over_of_isEvictable h⟩

/-- An eviction is a turnover, or nothing. -/
theorem turnover_evict (s : Session) (now : Nat) (k : Key) (e : Event) :
    s.Turnover now e (s.evict now k) := by
  unfold evict Cache.evict
  by_cases h : s.cache.isEvictable k now = true
  · rw [if_pos h]
    refine .drops (l := [k]) (fun k' hk' => ?_) (drops_foldl_forget [k] s)
    rw [List.mem_singleton.mp hk']
    exact over_of_isEvictable h
  · rw [if_neg h]
    exact .tells (.refl s)

/-- A collection is a turnover. -/
theorem turnover_collect (s : Session) (now : Nat) :
    s.Turnover now .collect (s.collect now).2 := by
  have hdrops := drops_foldl_forget (s.cache.collect now).1 s
  have hpolls : (s.collect now).2.polls =
      (s.cache.collect now).1.foldl (fun p k => (p.unregister k).2) s.polls :=
    congrArg (List.foldl (fun p k => (Polls.unregister p k).2) · (s.cache.collect now).1)
      (polls_foldl_forget (s.cache.collect now).1 _)
  refine .drops (l := (s.cache.collect now).1) (fun k hk => ?_)
    ⟨hdrops.setup, hdrops.keep, hdrops.read, hdrops.updates, Or.inr hpolls, hdrops.chores⟩
  exact over_of_isEvictable (List.mem_filter.mp hk).2

/-! ## One key -/

/-- Unless everything is dropped, whatever happens to one key has one of the fates of entries. -/
theorem Turnover.fate {now : Nat} {e : Event} (h : s.Turnover now e s') (he : e ≠ .reset)
    (k : Key) : Attendance.Fate now s.cache.keep (s.attendance k) (s'.attendance k) := by
  cases h with
  | tells htells =>
      rw [htells.attends.attendance]
      exact .stays _
  | comes _ hthere hseats =>
      rw [hseats.attendance]
      split
      · rename_i hk
        rw [hk, hthere]
        exact .comes _ _ _
      · exact .stays _
  | leaves hthere hmem _ hseats | leavesLast hthere hmem _ hseats =>
      rw [hseats.attendance]
      split
      · rename_i hk
        rw [hk, hthere]
        exact .leaves hmem
      · exact .stays _
  | makes _ hnone hseats =>
      rw [hseats.attendance]
      split
      · rename_i hk
        rw [hk, hnone]
        exact .makes _
      · exact .stays _
  | drops hover hdrops =>
      have hread := hdrops.read k
      unfold attendance
      rw [hread]
      split
      · rename_i hk
        obtain ⟨a, ha, hover⟩ := hover k hk
        change Attendance.Fate now s.cache.keep (s.attendance k) none
        rw [ha]
        exact .drops hover
      · exact .stays _
  | clears => exact absurd rfl he
  | ends => exact .stays _

/-- Nobody is seated after a reset. -/
theorem attendance_reset (s : Session) (k : Key) : s.reset.attendance k = none := by
  simp [attendance, read, reset, Cache.clear, Cache.read]

/-- What a session was set up with stays. -/
theorem Turnover.setup {now : Nat} {e : Event} (h : s.Turnover now e s') :
    s'.setup = s.setup ∧ s'.cache.keep = s.cache.keep := by
  cases h with
  | tells htells => exact ⟨htells.attends.setup, htells.attends.keep⟩
  | comes _ _ hseats | leaves _ _ _ hseats | leavesLast _ _ _ hseats | makes _ _ hseats =>
      exact ⟨hseats.setup, hseats.keep⟩
  | drops _ hdrops => exact ⟨hdrops.setup, hdrops.keep⟩
  | clears | ends => exact ⟨rfl, rfl⟩

end Session

namespace Situation

/-- The session is as before, or there was a turnover and its errands have been taken. -/
def TurnsOver (s : Session) (now : Nat) (e : Event) (s' : Session) : Prop :=
  s' = s ∨ ∃ turned, s.Turnover now e turned ∧ s' = turned.takeErrands.2

/-- **What an event can do to who watches.** -/
theorem turnover_step (p : Situation) (now : Nat) (e : Event) :
    TurnsOver p.session now e (p.step now e).session := by
  have hturned : ∀ {e : Event} {s : Session}, p.session.Turnover now e s →
      TurnsOver p.session now e s.takeErrands.2 := fun h => Or.inr ⟨_, h, rfl⟩
  have hoccurs := p.occurs_step now e
  generalize p.step now e = p' at hoccurs ⊢
  cases hoccurs with
  | nothing => exact Or.inl rfl
  | subscribe hlookup args => exact hturned (Session.turnover_subscribe hlookup now args)
  | unsubscribe ticket => exact hturned (Session.turnover_unsubscribe _ now ticket)
  | query hlookup args => exact hturned (Session.turnover_query hlookup now args)
  | refetch | ticks => exact hturned (.tells (Session.tells_refetch _ _))
  | ends _ hunwatched => exact hturned (.ends hunwatched)
  | evict k => exact hturned (Session.turnover_evict _ now k _)
  | collect => exact hturned (Session.turnover_collect _ now)
  | reset => exact hturned .clears
  | invalidate tags => exact hturned (.tells (Session.tells_invalidate _ tags))
  | write mutation args edits => exact hturned (.tells (Session.tells_beginWrite _ edits))
  | confirm _ response => exact hturned (.tells (Session.tells_confirm _ _ _ _ response))
  | giveUp _ failure => exact hturned (.tells (Session.tells_giveUp _ _ failure))
  | cancel => exact hturned (.tells (Session.tells_withdraw _ _))
  | land _ brought => exact hturned (.tells (Session.tells_land _ now _ _ brought))
  | followUp => exact hturned (.tells (Session.tells_followUp _ _))
  | standIn =>
      have htells : p.session.Tells [] p.session.standIn.2 := .of_same rfl rfl rfl rfl rfl
      exact hturned (.tells htells)

end Situation

end QueryCache
