import QueryCache.Proofs.Agenda
import QueryCache.Proofs.Sight.Fetching
import QueryCache.Timeline.Pool
/-!
# Flights in the air

The calls of a pool, its being cleared and its landings may follow each other in any order: how long
a fetch takes is up to its reply, and between any two steps of the clock more calls may come.  A
`Move` is one of these, so what holds after all lists of moves holds at all times.

* `Open` — what a window is, told by the moves alone: a fetch that was begun for the key since the
  pool was last cleared, and has not landed.
* `callers` — who was given a flight, by beginning it or by joining it.
* `Flying` — the invariant.  Each flight in the air has one job in the agenda, which knows its key
  and what it will bring; and those who wait for it are its callers.
-/

namespace QueryCache

namespace PoolJob

def flight : PoolJob → Nat
  | .depart flight _ _ | .land flight _ _ => flight

/-- The key under which the flight could be joined. -/
def key : PoolJob → Option Key
  | .depart _ k _ | .land _ k _ => k

/-- What the flight brings when it lands. -/
def brought : PoolJob → Except Failure Json
  | .depart _ _ reply => reply.brought
  | .land _ _ brought => brought

end PoolJob

namespace Pool

/-! ## Moves -/

inductive Move where
  | fetch (k : Key) (name : String) (reply : Reply)
  | fetchAlone (name : String) (reply : Reply)
  | clear
  /-- The next job that is ready is done. -/
  | work
  /-- Nothing is ready, and the clock goes on to the next alarm, or to a time before it. -/
  | wait (limit : Nat)

def move (p : Pool) : Move → Pool
  | .fetch k name reply => (p.fetch k name reply).2
  | .fetchAlone name reply => p.fetchAlone name reply
  | .clear => p.clear
  | .work => match p.agenda.pop? with
    | some (job, agenda) => Pool.work job { p with agenda := agenda }
    | none => p
  | .wait limit => match p.agenda.pop? with
    | some _ => p
    | none => match p.agenda.wake? limit with
      | some agenda => { p with agenda := agenda }
      | none => { p with agenda := { p.agenda with now := max p.agenda.now limit } }

/-- A pool after these moves, the latest first. -/
def after : List Move → Pool
  | [] => start
  | m :: h => (after h).move m

/-- The flight that lands with a move, and what it brings. -/
def settles (p : Pool) : Move → Option (Nat × Except Failure Json)
  | .work => match p.agenda.pop? with
    | some (.land flight _ brought, _) => some (flight, brought)
    | _ => none
  | _ => none

/-- A flight departed for a call of the key since the pool was last cleared, and has not landed. -/
inductive Open (k : Key) (n : Nat) : List Move → Prop
  | begins {h : List Move} {name : String} {reply : Reply}
      (hruns : ((after h).fetch k name reply).1 = true)
      (hnumber : (after h).state.flights.nextFlight = n) : Open k n (.fetch k name reply :: h)
  | lasts {h : List Move} {m : Move} (hopen : Open k n h) (hkeeps : m ≠ .clear)
      (hflies : ∀ brought, (after h).settles m ≠ some (n, brought)) : Open k n (m :: h)

/-- The fetch that a flight carries out has this reply. -/
inductive Runs (n : Nat) (reply : Reply) : List Move → Prop
  | shared {h : List Move} {k : Key} {name : String}
      (hruns : ((after h).fetch k name reply).1 = true)
      (hnumber : (after h).state.flights.nextFlight = n) : Runs n reply (.fetch k name reply :: h)
  | alone {h : List Move} {name : String} (hnumber : (after h).state.flights.nextFlight = n) :
      Runs n reply (.fetchAlone name reply :: h)
  | goesOn {h : List Move} (m : Move) (hruns : Runs n reply h) : Runs n reply (m :: h)

/-- Those who were given a flight, the first first. -/
def callers (n : Nat) : List Move → List String
  | [] => []
  | .fetch k name reply :: h =>
    callers n h ++
      if ((after h).fetch k name reply).2.state.flights.window? k = some n then [name] else []
  | .fetchAlone name _ :: h =>
    callers n h ++ if (after h).state.flights.nextFlight = n then [name] else []
  | _ :: h => callers n h

/-- The flights that have landed, the latest first. -/
def landings : List Move → List Nat
  | [] => []
  | m :: h => ((after h).settles m).toList.map Prod.fst ++ landings h

variable {h : List Move} {p : Pool} {k : Key} {n : Nat} {m : Move} {name : String}

/-- Letting time pass is a list of moves. -/
theorem moves_elapse (limit steps : Nat) (h : List Move) :
    ∃ l, Timed.elapse Pool.work limit steps (after h) = after (l ++ h) := by
  induction steps generalizing h with
  | zero => exact ⟨[], rfl⟩
  | succ steps ih =>
      unfold Timed.elapse
      cases hpop : (after h).agenda.pop? with
      | some next =>
          obtain ⟨job, agenda⟩ := next
          obtain ⟨l, hl⟩ := ih (.work :: h)
          refine ⟨l ++ [.work], ?_⟩
          rw [List.append_assoc, List.singleton_append, ← hl]
          simp only [after, move, hpop]
      | none =>
          cases hwake : (after h).agenda.wake? limit with
          | some agenda =>
              obtain ⟨l, hl⟩ := ih (.wait limit :: h)
              refine ⟨l ++ [.wait limit], ?_⟩
              rw [List.append_assoc, List.singleton_append, ← hl]
              simp only [after, move, hpop, hwake]
          | none => exact ⟨[.wait limit], by simp only [List.singleton_append, after, move, hpop, hwake]⟩

/-! ## What a move does -/

/-- A call finds an open window and joins its flight. -/
theorem fetch_of_window (h : p.state.flights.window? k = some n) (name : String) (reply : Reply) :
    p.fetch k name reply = (false, p.enter n name) := by
  unfold fetch
  rw [h]

/-- A call that finds no window begins a flight under the next number. -/
theorem fetch_of_none (h : p.state.flights.window? k = none) (name : String) (reply : Reply) :
    p.fetch k name reply = (true, begin p p.state.flights.nextFlight (p.state.flights.board k).2
      (some k) name reply) := by
  unfold fetch
  rw [h]
  rfl

/-- A call runs its fetcher if it finds no window. -/
theorem runs_iff (p : Pool) (k : Key) (name : String) (reply : Reply) :
    (p.fetch k name reply).1 = true ↔ p.state.flights.window? k = none := by
  cases hwindow : p.state.flights.window? k with
  | none => simp [fetch_of_none hwindow]
  | some n => simp [fetch_of_window hwindow]

/-- A window is open after a move if the move begins it, or it was open and the move neither clears
the pool nor lands the flight. -/
theorem open_cons : Open k n (m :: h) ↔
    (∃ name reply, m = .fetch k name reply ∧ (after h).state.flights.window? k = none ∧
      (after h).state.flights.nextFlight = n) ∨
    (Open k n h ∧ m ≠ .clear ∧ ∀ brought, (after h).settles m ≠ some (n, brought)) := by
  constructor
  · intro hopen
    cases hopen with
    | @begins _ name reply hruns hnumber =>
        exact Or.inl ⟨name, reply, rfl, (runs_iff _ _ _ _).mp hruns, hnumber⟩
    | lasts hopen hkeeps hflies => exact Or.inr ⟨hopen, hkeeps, hflies⟩
  · intro hcases
    rcases hcases with ⟨name, reply, rfl, hnone, hnumber⟩ | ⟨hopen, hkeeps, hflies⟩
    · exact .begins ((runs_iff _ _ _ _).mpr hnone) hnumber
    · exact .lasts hopen hkeeps hflies

/-! ## Flights in the air -/

/-- What a job has to do with the moves that led to it. -/
structure Tracked (h : List Move) (j : PoolJob) : Prop where
  early : j.flight < (after h).state.flights.nextFlight
  aloft : j.flight ∉ landings h
  keyed : ∀ k, (after h).state.flights.window? k = some j.flight → j.key = some k
  carries : ∃ reply, Runs j.flight reply h ∧ j.brought = reply.brought
  awaited : ((after h).state.waiting.filter fun w => w.1 == j.flight).map Prod.snd =
    callers j.flight h

structure Flying (h : List Move) : Prop where
  tracked : ∀ j ∈ (after h).agenda.jobs, Tracked h j
  distinct : ((after h).agenda.jobs.map PoolJob.flight).Nodup
  windows : ∀ k n, (after h).state.flights.window? k = some n →
    n < (after h).state.flights.nextFlight
  waits : ∀ w ∈ (after h).state.waiting, w.1 < (after h).state.flights.nextFlight
  /-- What has not landed still will. -/
  coming : ∀ n < (after h).state.flights.nextFlight,
    n ∈ landings h ∨ ∃ j ∈ (after h).agenda.jobs, j.flight = n
  fresh : ∀ n, (after h).state.flights.nextFlight ≤ n → callers n h = []
  landed : ∀ n ∈ landings h, n < (after h).state.flights.nextFlight
  once : (landings h).Nodup

/-- A move with which nothing lands adds no landing. -/
theorem landings_of_none (hsettles : (after h).settles m = none) :
    landings (m :: h) = landings h := by
  simp [landings, hsettles]

/-- A job that does the same for its flight, after a move that changes nothing but the agenda. -/
theorem Tracked.of_same {j j' : PoolJob} (ht : Tracked h j)
    (hstate : (after (m :: h)).state = (after h).state) (hsettles : (after h).settles m = none)
    (hcallers : ∀ n, callers n (m :: h) = callers n h) (hflight : j'.flight = j.flight)
    (hkey : j'.key = j.key) (hbrought : j'.brought = j.brought) : Tracked (m :: h) j' where
  early := by
    rw [hstate, hflight]
    exact ht.early
  aloft := by
    rw [landings_of_none hsettles, hflight]
    exact ht.aloft
  keyed := by
    rw [hstate, hflight, hkey]
    exact ht.keyed
  carries := by
    obtain ⟨reply, hruns, hreply⟩ := ht.carries
    rw [hflight, hbrought]
    exact ⟨reply, .goesOn m hruns, hreply⟩
  awaited := by
    rw [hstate, hflight, hcallers]
    exact ht.awaited

/-- A move that changes nothing but the agenda, where each job is one there was or does the same for
its flight. -/
theorem Flying.of_same (hf : Flying h) (hstate : (after (m :: h)).state = (after h).state)
    (hsettles : (after h).settles m = none) (hcallers : ∀ n, callers n (m :: h) = callers n h)
    (hjobs : ∀ j' ∈ (after (m :: h)).agenda.jobs, ∃ j ∈ (after h).agenda.jobs,
      j'.flight = j.flight ∧ j'.key = j.key ∧ j'.brought = j.brought)
    (hflights : (after (m :: h)).agenda.jobs.map PoolJob.flight =
      (after h).agenda.jobs.map PoolJob.flight) : Flying (m :: h) where
  tracked := by
    intro j' hj'
    obtain ⟨j, hj, hflight, hkey, hbrought⟩ := hjobs j' hj'
    exact (hf.tracked j hj).of_same hstate hsettles hcallers hflight hkey hbrought
  distinct := by
    rw [hflights]
    exact hf.distinct
  windows := by
    rw [hstate]
    exact hf.windows
  waits := by
    rw [hstate]
    exact hf.waits
  coming := by
    intro n hn
    rw [hstate] at hn
    rw [landings_of_none hsettles]
    refine (hf.coming n hn).imp_right fun ⟨j, hj, hflight⟩ => ?_
    have hmem : n ∈ (after (m :: h)).agenda.jobs.map PoolJob.flight := by
      rw [hflights]
      exact Multiset.mem_map.mpr ⟨j, hj, hflight⟩
    exact Multiset.mem_map.mp hmem
  fresh := by
    intro n hn
    rw [hstate] at hn
    rw [hcallers]
    exact hf.fresh n hn
  landed := by
    rw [hstate, landings_of_none hsettles]
    exact hf.landed
  once := by
    rw [landings_of_none hsettles]
    exact hf.once

/-- One more is given a flight, which may be a new one. -/
structure Enters (h : List Move) (m : Move) (n : Nat) (name : String) : Prop where
  settles : (after h).settles m = none
  waiting : (after (m :: h)).state.waiting = (after h).state.waiting ++ [(n, name)]
  given : ∀ n', callers n' (m :: h) = callers n' h ++ if n = n' then [name] else []

/-- Those who wait for a flight are its callers still when one more has been given a flight. -/
theorem Enters.awaited (he : Enters h m n name) {n' : Nat}
    (hawaited : ((after h).state.waiting.filter fun w => w.1 == n').map Prod.snd = callers n' h) :
    ((after (m :: h)).state.waiting.filter fun w => w.1 == n').map Prod.snd =
      callers n' (m :: h) := by
  rw [he.waiting, he.given, List.filter_append, List.map_append, hawaited]
  by_cases hn : n = n' <;> simp [hn]

/-- All who wait do so for flights that have a number by now. -/
theorem Enters.waits (he : Enters h m n name) (hf : Flying h) {next : Nat}
    (hnext : (after h).state.flights.nextFlight ≤ next) (hn : n < next) :
    ∀ w ∈ (after (m :: h)).state.waiting, w.1 < next := by
  intro w hw
  rw [he.waiting, List.mem_append, List.mem_singleton] at hw
  rcases hw with hw | rfl
  · exact Nat.lt_of_lt_of_le (hf.waits w hw) hnext
  · exact hn

/-- Nobody has been given a flight that is yet to depart. -/
theorem Enters.fresh (he : Enters h m n name) (hf : Flying h) {next : Nat}
    (hnext : (after h).state.flights.nextFlight ≤ next) (hn : n < next) (n' : Nat)
    (hn' : next ≤ n') : callers n' (m :: h) = [] := by
  rw [he.given, hf.fresh n' (Nat.le_trans hnext hn'), if_neg (by omega), List.append_nil]

/-- A call that joins a flight is one more that is given it. -/
theorem enters_join (hwindow : (after h).state.flights.window? k = some n) (name : String)
    (reply : Reply) : Enters h (.fetch k name reply) n name where
  settles := rfl
  waiting := by simp only [after, move, fetch_of_window hwindow, enter]
  given := by
    intro n'
    simp only [callers, fetch_of_window hwindow, enter, hwindow, Option.some.injEq]

/-- Joining a flight. -/
theorem Flying.join (hf : Flying h) (hwindow : (after h).state.flights.window? k = some n)
    (name : String) (reply : Reply) : Flying (.fetch k name reply :: h) := by
  have he := enters_join hwindow name reply
  have hflights : (after (.fetch k name reply :: h)).state.flights = (after h).state.flights := by
    simp only [after, move, fetch_of_window hwindow, enter]
  have hjobs : (after (.fetch k name reply :: h)).agenda.jobs = (after h).agenda.jobs := by
    simp only [after, move, fetch_of_window hwindow, enter]
  have hearly := hf.windows k n hwindow
  refine ⟨fun j hj => ?_, ?_, ?_, ?_, ?_, ?_, ?_, ?_⟩
  · have ht := hf.tracked j (hjobs ▸ hj)
    refine ⟨?_, ?_, ?_, ?_, he.awaited ht.awaited⟩
    · rw [hflights]
      exact ht.early
    · rw [landings_of_none he.settles]
      exact ht.aloft
    · rw [hflights]
      exact ht.keyed
    · obtain ⟨r, hruns, hr⟩ := ht.carries
      exact ⟨r, .goesOn _ hruns, hr⟩
  · rw [hjobs]
    exact hf.distinct
  · rw [hflights]
    exact hf.windows
  · rw [hflights]
    exact he.waits hf (Nat.le_refl _) hearly
  · rw [hflights, landings_of_none he.settles, hjobs]
    exact hf.coming
  · rw [hflights]
    exact he.fresh hf (Nat.le_refl _) hearly
  · rw [hflights, landings_of_none he.settles]
    exact hf.landed
  · rw [landings_of_none he.settles]
    exact hf.once

/-- A flight departs for one that is given it, under a key or under none. -/
structure Departs (h : List Move) (m : Move) (key : Option Key) (name : String) (reply : Reply) :
    Prop where
  enters : Enters h m (after h).state.flights.nextFlight name
  next : (after (m :: h)).state.flights.nextFlight = (after h).state.flights.nextFlight + 1
  windows : ∀ k n, (after (m :: h)).state.flights.window? k = some n →
    (key = some k ∧ n = (after h).state.flights.nextFlight) ∨
      (after h).state.flights.window? k = some n
  jobs : (after (m :: h)).agenda.jobs =
    .depart (after h).state.flights.nextFlight key reply ::ₘ (after h).agenda.jobs
  runs : Runs (after h).state.flights.nextFlight reply (m :: h)

/-- A call that finds no window has a flight depart under its key. -/
theorem departs_fetch (hnone : (after h).state.flights.window? k = none) (name : String)
    (reply : Reply) : Departs h (.fetch k name reply) (some k) name reply where
  enters := by
    refine ⟨rfl, ?_, fun n' => ?_⟩
    · simp only [after, move, fetch_of_none hnone, begin, enter]
    · simp [callers, fetch_of_none hnone, begin, enter, Flights.board, Flights.window?]
  next := by simp only [after, move, fetch_of_none hnone, begin, enter, Flights.board]
  windows := by
    intro k' n hwindow
    simp only [after, move, fetch_of_none hnone, begin, enter] at hwindow
    rw [Flights.window?_board] at hwindow
    split at hwindow
    · rename_i hk
      cases hwindow
      exact Or.inl ⟨congrArg some hk.symm, rfl⟩
    · exact Or.inr hwindow
  jobs := by simp only [after, move, fetch_of_none hnone, begin, enter, Agenda.jobs_push]
  runs := .shared ((runs_iff _ _ _ _).mpr hnone) rfl

/-- A call that shares with nobody has a flight depart under no key. -/
theorem departs_fetchAlone (h : List Move) (name : String) (reply : Reply) :
    Departs h (.fetchAlone name reply) none name reply where
  enters := ⟨rfl, rfl, fun _ => rfl⟩
  next := rfl
  windows := fun _ _ hwindow => Or.inr hwindow
  jobs := Agenda.jobs_push _ _
  runs := .alone rfl

/-- A flight departs. -/
theorem Flying.depart {key : Option Key} {name : String} {reply : Reply} (hf : Flying h)
    (hd : Departs h m key name reply) : Flying (m :: h) := by
  have hnext : (after h).state.flights.nextFlight <
      (after (m :: h)).state.flights.nextFlight := by
    rw [hd.next]
    exact Nat.lt_succ_self _
  refine ⟨fun j hj => ?_, ?_, ?_, hd.enters.waits hf hnext.le hnext, fun n hn => ?_,
    hd.enters.fresh hf hnext.le hnext, ?_, ?_⟩
  · rw [hd.jobs, Multiset.mem_cons] at hj
    rcases hj with rfl | hj
    · refine ⟨hnext, ?_, ?_, ⟨reply, hd.runs, rfl⟩, hd.enters.awaited ?_⟩
      · rw [landings_of_none hd.enters.settles]
        exact fun hlanded => Nat.lt_irrefl _ (hf.landed _ hlanded)
      · intro k hwindow
        rcases hd.windows k _ hwindow with ⟨hkey, -⟩ | hold
        · exact hkey
        · exact absurd (hf.windows k _ hold) (Nat.lt_irrefl _)
      · -- Nobody has been given the flight before.
        have hnobody : (after h).state.waiting.filter
            (fun w => w.1 == (after h).state.flights.nextFlight) = [] :=
          List.filter_eq_nil_iff.mpr fun w hw => by simpa using (hf.waits w hw).ne
        rw [PoolJob.flight, hnobody, hf.fresh _ (Nat.le_refl _), List.map_nil]
    · have ht := hf.tracked j hj
      refine ⟨ht.early.trans hnext, ?_, ?_, ?_, hd.enters.awaited ht.awaited⟩
      · rw [landings_of_none hd.enters.settles]
        exact ht.aloft
      · intro k hwindow
        rcases hd.windows k _ hwindow with ⟨-, hnew⟩ | hold
        · exact absurd hnew ht.early.ne
        · exact ht.keyed k hold
      · obtain ⟨r, hruns, hr⟩ := ht.carries
        exact ⟨r, .goesOn _ hruns, hr⟩
  · rw [hd.jobs, Multiset.map_cons, Multiset.nodup_cons]
    refine ⟨fun hmem => ?_, hf.distinct⟩
    obtain ⟨j, hj, hflight⟩ := Multiset.mem_map.mp hmem
    exact (hf.tracked j hj).early.ne hflight
  · intro k n hwindow
    rcases hd.windows k n hwindow with ⟨-, rfl⟩ | hold
    · exact hnext
    · exact (hf.windows k n hold).trans hnext
  · rw [landings_of_none hd.enters.settles, hd.jobs]
    rw [hd.next, Nat.lt_succ_iff_lt_or_eq] at hn
    rcases hn with hn | rfl
    · rcases hf.coming n hn with hlanded | ⟨j, hj, hflight⟩
      · exact Or.inl hlanded
      · exact Or.inr ⟨j, Multiset.mem_cons_of_mem hj, hflight⟩
    · exact Or.inr ⟨_, Multiset.mem_cons_self _ _, rfl⟩
  · rw [landings_of_none hd.enters.settles]
    exact fun n hn => (hf.landed n hn).trans hnext
  · rw [landings_of_none hd.enters.settles]
    exact hf.once

/-- Clearing closes the windows, and leaves the flights in the air. -/
theorem Flying.clear (hf : Flying h) : Flying (.clear :: h) := by
  have hclosed : ∀ k, (after (.clear :: h)).state.flights.window? k = none := by
    intro k
    simp [after, move, Pool.clear, Flights.forgetAll, Flights.window?]
  refine ⟨fun j hj => ?_, hf.distinct, fun k n hwindow => ?_, hf.waits, hf.coming, hf.fresh,
    hf.landed, hf.once⟩
  · have ht := hf.tracked j hj
    obtain ⟨r, hruns, hr⟩ := ht.carries
    refine ⟨ht.early, ht.aloft, fun k hwindow => ?_, ⟨r, .goesOn _ hruns, hr⟩, ht.awaited⟩
    rw [hclosed] at hwindow
    cases hwindow
  · rw [hclosed] at hwindow
    cases hwindow

/-- While the clock goes on nobody comes, and nothing lands. -/
theorem state_wait (h : List Move) (limit : Nat) :
    (after (.wait limit :: h)).state = (after h).state := by
  simp only [after, move]
  split
  · rfl
  · split <;> rfl

/-- Work that lands no flight changes nothing but the agenda. -/
theorem state_work (hsettles : (after h).settles .work = none) :
    (after (.work :: h)).state = (after h).state := by
  simp only [after, move]
  cases hpop : (after h).agenda.pop? with
  | none => rfl
  | some next =>
      obtain ⟨job, agenda⟩ := next
      cases job with
      | depart flight key reply => rfl
      | land flight key brought => simp [settles, hpop] at hsettles

/-- The invariant is kept while the clock goes on. -/
theorem Flying.wait (hf : Flying h) (limit : Nat) : Flying (.wait limit :: h) := by
  have hjobs : (after (.wait limit :: h)).agenda.jobs = (after h).agenda.jobs := by
    simp only [after, move]
    split
    · rfl
    · split
      · exact Agenda.jobs_wake (by assumption)
      · rw [Agenda.jobs_eq, Agenda.jobs_eq]
  refine hf.of_same (state_wait h limit) rfl (fun _ => rfl) (fun j hj => ⟨j, hjobs ▸ hj, rfl, rfl, rfl⟩) ?_
  rw [hjobs]

/-! ## Landing -/

/-- A flight lands when its job is the next one that is ready. -/
theorem pop_of_settles {brought : Except Failure Json}
    (hsettles : p.settles m = some (n, brought)) :
    m = .work ∧ ∃ key agenda, p.agenda.pop? = some (.land n key brought, agenda) := by
  cases m with
  | work =>
      refine ⟨rfl, ?_⟩
      simp only [settles] at hsettles
      split at hsettles
      · rename_i flight key found agenda hpop
        cases hsettles
        exact ⟨key, agenda, hpop⟩
      · cases hsettles
  | _ => cases hsettles

section Landing

variable {key : Option Key} {brought : Except Failure Json} {agenda : Agenda PoolJob}
  (hpop : (after h).agenda.pop? = some (.land n key brought, agenda))

include hpop

/-- A job of this kind lands its flight. -/
theorem settles_work : (after h).settles .work = some (n, brought) := by
  simp only [settles, hpop]

/-- What the pool is after the landing. -/
theorem after_work :
    after (.work :: h) = Pool.land { after h with agenda := agenda } n key brought := by
  simp only [after, move, hpop, work]

/-- The landing is put down. -/
theorem landings_work : landings (.work :: h) = n :: landings h := by
  rw [landings, settles_work hpop]
  rfl

/-- Those who waited for the flight are let go, and the others wait on. -/
theorem waiting_work : (after (.work :: h)).state.waiting =
    (after h).state.waiting.filter fun w => !(w.1 == n) := by
  rw [after_work hpop]
  simp only [land, List.partition_eq_filter_filter]
  rfl

/-- The job of the landing is the one that is gone. -/
theorem jobs_work : (after h).agenda.jobs = .land n key brought ::ₘ (after (.work :: h)).agenda.jobs := by
  rw [after_work hpop]
  exact Agenda.jobs_pop hpop

/-- The job is tracked, being one of the agenda's. -/
theorem tracked_work (hf : Flying h) : Tracked h (.land n key brought) :=
  hf.tracked _ (by rw [jobs_work hpop]; exact Multiset.mem_cons_self _ _)

/-- A landing gives out no number. -/
theorem nextFlight_work :
    (after (.work :: h)).state.flights.nextFlight = (after h).state.flights.nextFlight := by
  rw [after_work hpop]
  cases key with
  | none => rfl
  | some k => exact Flights.nextFlight_land _ _ _

/-- A landing closes the flight's own window and no other. -/
theorem window?_work (hf : Flying h) (k : Key) : (after (.work :: h)).state.flights.window? k =
    if (after h).state.flights.window? k = some n then none
    else (after h).state.flights.window? k := by
  have hkeyed := (tracked_work hpop hf).keyed
  rw [after_work hpop]
  cases key with
  | none =>
      rw [if_neg fun hwindow => by cases hkeyed k hwindow]
      rfl
  | some own =>
      show Flights.window? (Flights.land _ own n) k = _
      rw [Flights.window?_land]
      by_cases hk : k = own
      · subst hk
        simp
      · rw [if_neg fun hboth => hk hboth.1, if_neg]
        exact fun hwindow => hk (Option.some.inj (hkeyed k hwindow)).symm

/-- The invariant is kept by a landing. -/
theorem Flying.land (hf : Flying h) : Flying (.work :: h) := by
  have hjobs := jobs_work hpop
  have hnext := nextFlight_work hpop
  have hlandings := landings_work hpop
  have hn := tracked_work hpop hf
  have hdistinct := hf.distinct
  rw [hjobs, Multiset.map_cons, Multiset.nodup_cons] at hdistinct
  have hold : ∀ k n', (after (.work :: h)).state.flights.window? k = some n' →
      (after h).state.flights.window? k = some n' := by
    intro k n' hwindow
    rw [window?_work hpop hf] at hwindow
    split at hwindow
    · cases hwindow
    · exact hwindow
  refine ⟨fun j hj => ?_, hdistinct.2, fun k n' hwindow => ?_, fun w hw => ?_, fun n' hn' => ?_,
    fun n' hn' => ?_, ?_, ?_⟩
  · have ht := hf.tracked j (hjobs ▸ Multiset.mem_cons_of_mem hj)
    -- No other job is of the flight that lands.
    have hother : j.flight ≠ n := fun hflight =>
      hdistinct.1 (Multiset.mem_map.mpr ⟨j, hj, hflight⟩)
    obtain ⟨r, hruns, hr⟩ := ht.carries
    refine ⟨hnext ▸ ht.early, ?_, fun k hwindow => ht.keyed k (hold k _ hwindow),
      ⟨r, .goesOn _ hruns, hr⟩, ?_⟩
    · rw [hlandings, List.mem_cons]
      rintro (hflight | hlanded)
      · exact hother hflight
      · exact ht.aloft hlanded
    · rw [waiting_work hpop, List.filter_filter]
      refine Eq.trans ?_ ht.awaited
      congr 1
      refine List.filter_congr fun w _ => ?_
      by_cases hw : w.1 = j.flight <;> simp [hw, hother]
  · rw [hnext]
    exact hf.windows k n' (hold k n' hwindow)
  · rw [waiting_work hpop, List.mem_filter] at hw
    rw [hnext]
    exact hf.waits w hw.1
  · rw [hnext] at hn'
    rw [hlandings, List.mem_cons]
    rcases hf.coming n' hn' with hlanded | ⟨j, hj, hflight⟩
    · exact Or.inl (Or.inr hlanded)
    · rw [hjobs, Multiset.mem_cons] at hj
      rcases hj with rfl | hj
      · exact Or.inl (Or.inl hflight.symm)
      · exact Or.inr ⟨j, hj, hflight⟩
  · exact hf.fresh n' (hnext ▸ hn')
  · rw [hlandings, hnext]
    exact List.forall_mem_cons.mpr ⟨hn.early, hf.landed⟩
  · rw [hlandings]
    exact List.nodup_cons.mpr ⟨hn.aloft, hf.once⟩

end Landing

/-- The invariant is kept by any job that is done. -/
theorem Flying.work (hf : Flying h) : Flying (.work :: h) := by
  cases hpop : (after h).agenda.pop? with
  | none =>
      have hafter : after (.work :: h) = after h := by simp only [after, move, hpop]
      refine hf.of_same ?_ ?_ (fun _ => rfl) ?_ ?_
      · rw [hafter]
      · simp only [settles, hpop]
      · exact fun j hj => ⟨j, hafter ▸ hj, rfl, rfl, rfl⟩
      · rw [hafter]
  | some next =>
      obtain ⟨job, agenda⟩ := next
      cases job with
      | land flight key brought => exact hf.land hpop
      | depart flight key reply =>
          have hsettles : (after h).settles .work = none := by simp only [settles, hpop]
          have hbefore := Agenda.jobs_pop hpop
          have hafter : (after (.work :: h)).agenda.jobs =
              .land flight key reply.brought ::ₘ agenda.jobs := by
            simp only [after, move, hpop, Pool.work, Agenda.jobs_after]
          refine hf.of_same (state_work hsettles) hsettles (fun _ => rfl) (fun j hj => ?_) ?_
          · rw [hafter, Multiset.mem_cons] at hj
            rw [hbefore]
            rcases hj with rfl | hj
            · exact ⟨_, Multiset.mem_cons_self _ _, rfl, rfl, rfl⟩
            · exact ⟨j, Multiset.mem_cons_of_mem hj, rfl, rfl, rfl⟩
          · rw [hafter, hbefore, Multiset.map_cons, Multiset.map_cons]
            rfl

/-- The invariant holds after all lists of moves. -/
theorem flying_after (h : List Move) : Flying h := by
  induction h with
  | nil =>
      refine ⟨?_, ?_, ?_, ?_, ?_, fun _ _ => rfl, ?_, List.nodup_nil⟩ <;>
        simp [after, start, Agenda.start, Agenda.jobs, Agenda.pending, Flights.empty,
          Flights.window?, landings]
  | cons m h ih =>
      cases m with
      | fetch k name reply =>
          cases hwindow : (after h).state.flights.window? k with
          | none => exact ih.depart (departs_fetch hwindow name reply)
          | some n => exact ih.join hwindow name reply
      | fetchAlone name reply => exact ih.depart (departs_fetchAlone h name reply)
      | clear => exact ih.clear
      | work => exact ih.work
      | wait limit => exact ih.wait limit

end Pool

end QueryCache
