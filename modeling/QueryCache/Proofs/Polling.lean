import QueryCache.Proofs.Household
import QueryCache.Proofs.Register
/-!
# Entries are polled while they are watched

A key is polled exactly while somebody watches its entry and the class of the entry's endpoint has
an interval.  There is one chore then that keeps the poll going, and its ticks fall at whole
multiples of the interval after the moment at which the first subscriber came
(`polled_while_watched`).

Old chores of polls that have been struck off stay on the agenda.  They do no harm, because each has
the serial number of its poll and numbers are never given out twice (`Household.Numbered`).
-/

namespace QueryCache

namespace Job

/-- The number of the poll that a job belongs to. -/
def serial? : Job → Option Nat
  | .poll _ serial _ | .tick _ serial _ _ => some serial
  | _ => none

/-- Whether a job keeps a poll of this key going. -/
def isLive (polls : Polls) (k : Key) : Job → Bool
  | .poll k' serial _ | .tick k' serial _ _ => k' = k ∧ polls.isCurrent k serial = true
  | _ => false

variable {polls polls' : Polls} {k k' : Key} {job : Job} {serial interval due : Nat}

/-- A job that starts a poll keeps it going while its number is current. -/
theorem isLive_poll : (Job.poll k' serial interval).isLive polls k = true ↔
    k' = k ∧ polls.isCurrent k serial = true := decide_eq_true_iff

/-- A tick keeps its poll going while its number is current. -/
theorem isLive_tick : (Job.tick k' serial interval due).isLive polls k = true ↔
    k' = k ∧ polls.isCurrent k serial = true := decide_eq_true_iff

/-- What keeps a poll of a key going is told by the register at that key. -/
theorem isLive_congr (h : polls'.get? k = polls.get? k) (job : Job) :
    job.isLive polls' k = job.isLive polls k := by
  have hcurrent : ∀ serial, polls'.isCurrent k serial = polls.isCurrent k serial := fun serial => by
    unfold Polls.isCurrent
    rw [h]
  cases job <;> simp only [isLive, hcurrent]

/-- Where there is no poll nothing keeps one going. -/
theorem isLive_of_none (h : polls.get? k = none) (job : Job) : job.isLive polls k = false := by
  have hcurrent : ∀ serial, polls.isCurrent k serial = false := fun serial => by
    unfold Polls.isCurrent
    rw [h]
  cases job <;> simp [isLive, hcurrent]

/-- Polls are kept going by chores. -/
theorem isChore_of_isLive (h : job.isLive polls k = true) : job.isChore = true := by
  cases job with
  | poll | tick | grace | evict => rfl
  | _ => cases h

/-- A job that keeps a poll going has the number of the poll. -/
theorem serial?_of_isLive {poll : Poll} (hpoll : polls.get? k = some poll)
    (h : job.isLive polls k = true) : job.serial? = some poll.serial := by
  have hserial : ∀ {serial}, polls.isCurrent k serial = true → serial = poll.serial := by
    intro serial hcurrent
    unfold Polls.isCurrent at hcurrent
    rw [hpoll] at hcurrent
    simp only [Bool.and_eq_true, beq_iff_eq] at hcurrent
    exact hcurrent.1.symm
  cases job with
  | poll k' serial interval => exact congrArg some (hserial (isLive_poll.mp h).2)
  | tick k' serial interval due => exact congrArg some (hserial (isLive_tick.mp h).2)
  | _ => exact absurd h (by simp [isLive])

end Job

namespace Household

/-- What keeps the poll of a key going. -/
def live (h : Household) (k : Key) : Multiset (Alarm Job) :=
  h.chores.filter fun x => x.job.isLive h.session.polls k = true

/-- No chore has a number that is yet to be given out. -/
def Numbered (h : Household) : Prop :=
  ∀ x ∈ h.chores, ∀ serial, x.job.serial? = some serial → serial < h.session.polls.nextSerial

/-- The first ticks, the latest first. -/
def beats (start interval n : Nat) : List Nat :=
  (List.range n).reverse.map fun i => start + (i + 1) * interval

/-- A poll has been under way since then and has ticked so many times. -/
structure Beats (h : Household) (k : Key) (interval serial start n : Nat) : Prop where
  poll : h.session.polls.get? k = some ⟨interval, serial, false⟩
  begun : start + n * interval ≤ h.now
  live : (n = 0 ∧ h.live k = {⟨start, .poll k serial interval⟩}) ∨
    h.live k = {⟨start + (n + 1) * interval,
      .tick k serial interval (start + (n + 1) * interval)⟩}

/-- A key whose entry was last found by a first subscriber at one time, and whose poll has ticked
at others, is polled as it is to be. -/
structure Polled (h : Household) (k : Key) (risen : Option Nat) (ticked : List Nat) : Prop where
  past : ∀ time ∈ ticked, time ≤ h.now
  off : h.session.pollingInterval? k = none → h.session.polls.get? k = none
  on : ∀ interval, h.session.pollingInterval? k = some interval →
    ∃ serial start n, risen = some start ∧
      ticked.filter (fun time => start < time) = beats start interval n ∧
      h.Beats k interval serial start n

variable {h h' : Household} {k : Key} {m : Mark} {risen : Option Nat} {ticked : List Nat}

/-- One more tick falls an interval after the last. -/
theorem beats_succ (start interval n : Nat) :
    beats start interval (n + 1) = (start + (n + 1) * interval) :: beats start interval n := by
  unfold beats
  rw [List.range_succ, List.reverse_append]
  rfl

/-! ## Numbers -/

/-- Only the errand to start a poll has a number. -/
theorem serial?_jobOf {e : Errand} {serial : Nat}
    (h : (Timeline.jobOf e).serial? = some serial) : ∃ k interval, e = .poll k serial interval := by
  cases e with
  | poll k serial' interval =>
      cases h
      exact ⟨k, interval, rfl⟩
  | carry flight => cases h
  | grace k => cases h

/-- No step hands out a number that has been given before. -/
theorem Step.numbered (hstep : Step m h h') (hnumbered : h.Numbered) : h'.Numbered := by
  cases hstep with
  | turns _ hnone hturn =>
      obtain ⟨hle, hnew⟩ := hturn.serials hnone
      intro x hx serial hserial
      rcases Multiset.mem_add.mp hx with hold | hasked
      · exact (hnumbered x hold serial hserial).trans_le hle
      · obtain ⟨e, he, rfl⟩ := List.mem_map.mp (Multiset.mem_coe.mp hasked)
        obtain ⟨k, interval, rfl⟩ := serial?_jobOf hserial
        exact hnew k serial interval he
  | resets | waits => exact hnumbered
  | begins k =>
      intro x hx serial hserial
      rcases Multiset.mem_cons.mp hx with rfl | hold
      · cases hserial
      · exact hnumbered x (Multiset.mem_cons_of_mem hold) serial hserial
  | @evicts now s c k hnone =>
      intro x hx serial hserial
      exact (hnumbered x (Multiset.mem_cons_of_mem hx) serial hserial).trans_le
        ((Session.turnover_evict s now k .collect).serials hnone).1
  | setsOut k serial' interval =>
      intro x hx serial hserial
      rcases Multiset.mem_cons.mp hx with rfl | hold
      · cases hserial
        exact hnumbered _ (Multiset.mem_cons_self _ _) serial' rfl
      · exact hnumbered x (Multiset.mem_cons_of_mem hold) serial hserial
  | @ticks now s s' c k serial' interval due _ _ htells =>
      intro x hx serial hserial
      change serial < s'.polls.nextSerial
      rw [htells.attends.polls]
      rcases Multiset.mem_cons.mp hx with rfl | hold
      · cases hserial
        exact hnumbered _ (Multiset.mem_cons_self _ _) serial' rfl
      · exact hnumbered x (Multiset.mem_cons_of_mem hold) serial hserial
  | ceases =>
      intro x hx serial hserial
      refine (hnumbered x (Multiset.mem_cons_of_mem hx) serial hserial).trans_eq ?_
      exact (Polls.nextSerial_finish _ _ _).symm
  | lapses =>
      exact fun x hx serial hserial =>
        hnumbered x (Multiset.mem_cons_of_mem hx) serial hserial

/-! ## One key -/

/-- A key that is polled as it is to be is on the register as it is to be. -/
theorem Polled.registered (hpolled : h.Polled k risen ticked) : h.session.Registered k := by
  unfold Session.Registered
  cases hinterval : h.session.pollingInterval? k with
  | none => exact hpolled.off hinterval
  | some interval =>
      obtain ⟨serial, start, n, -, -, hbeats⟩ := hpolled.on interval hinterval
      exact ⟨serial, hbeats.poll⟩

/-- A poll that has nothing done to it goes on. -/
theorem Polled.goesOn (hpolled : h.Polled k risen ticked)
    (hinterval : h'.session.pollingInterval? k = h.session.pollingInterval? k)
    (hpoll : h'.session.polls.get? k = h.session.polls.get? k) (hlive : h'.live k = h.live k)
    (hlater : h.now ≤ h'.now) : h'.Polled k risen ticked where
  past := fun time htime => (hpolled.past time htime).trans hlater
  off := by
    rw [hinterval, hpoll]
    exact hpolled.off
  on := by
    rw [hinterval]
    intro interval hsome
    obtain ⟨serial, start, n, hrisen, hticked, hbeats⟩ := hpolled.on interval hsome
    exact ⟨serial, start, n, hrisen, hticked, hpoll.trans hbeats.poll,
      hbeats.begun.trans hlater, by rw [hlive]; exact hbeats.live⟩

/-- A key that is not to be polled is not, whenever it ticked in the past. -/
theorem polled_off (hpast : ∀ time ∈ ticked, time ≤ h.now)
    (hinterval : h.session.pollingInterval? k = none) (hpoll : h.session.polls.get? k = none) :
    h.Polled k risen ticked where
  past := hpast
  off := fun _ => hpoll
  on := fun interval hsome => by cases hinterval.symm.trans hsome

/-- Of the errands only those for a poll of the key can keep it going. -/
theorem live_asked (polls : Polls) (now : Nat) {errands : List Errand}
    (hnobody : ∀ serial interval, .poll k serial interval ∉ errands) :
    ((asked now errands).filter fun x => x.job.isLive polls k = true) = 0 := by
  rw [Multiset.filter_eq_nil]
  intro x hx hlive
  obtain ⟨e, he, rfl⟩ := List.mem_map.mp (Multiset.mem_coe.mp hx)
  cases e with
  | poll k' serial interval =>
      obtain ⟨rfl, -⟩ := Job.isLive_poll.mp hlive
      exact hnobody serial interval he
  | carry flight => cases hlive
  | grace k' => cases hlive

/-- Where the register is the same at a key, so are the jobs that keep its poll going. -/
theorem live_congr {polls polls' : Polls} (h : polls'.get? k = polls.get? k)
    (c : Multiset (Alarm Job)) :
    (c.filter fun x => x.job.isLive polls' k = true) =
      c.filter fun x => x.job.isLive polls k = true := by
  simp only [Job.isLive_congr h]

/-- A chore has been taken off perhaps that kept no poll of this key going, and an event has
happened. -/
theorem Polled.repolls (hpolled : h.Polled k risen ticked) (hnumbered : h.Numbered) {s' : Session}
    (hrepolls : h.session.Repolls s' k) {c : Multiset (Alarm Job)}
    (hchores : ∀ polls : Polls, (c.filter fun x => x.job.isLive polls k = true) =
      h.chores.filter fun x => x.job.isLive polls k = true) :
    Polled ⟨h.now, s'.takeErrands.2, c + asked h.now s'.chores⟩ k
      (if h.session.isWatched k = false ∧ s'.isWatched k = true then some h.now else risen)
      ticked := by
  cases hrepolls with
  | off hinterval hpoll => exact polled_off hpolled.past hinterval hpoll
  | goesOn hinterval hpoll hrise hnobody =>
      have hstill : ¬ (h.session.isWatched k = false ∧ s'.isWatched k = true) := by
        rintro ⟨hbefore, hafter⟩
        cases hbefore.symm.trans (hrise hafter)
      rw [if_neg hstill]
      refine hpolled.goesOn hinterval hpoll ?_ (Nat.le_refl _)
      change ((c + asked h.now s'.chores).filter fun x => x.job.isLive s'.polls k = true) = _
      rw [Multiset.filter_add, live_asked s'.polls h.now hnobody, Multiset.add_zero, hchores]
      exact live_congr hpoll h.chores
  | @starts interval hbefore hafter hinterval hpoll hasked =>
      rw [if_pos ⟨hbefore, hafter⟩]
      refine ⟨hpolled.past, fun hnone => ?_, fun i hsome => ?_⟩
      · cases hnone.symm.trans hinterval
      · cases hinterval.symm.trans hsome
        refine ⟨h.session.polls.nextSerial, h.now, 0, rfl, ?_, hpoll, ?_, .inl ⟨rfl, ?_⟩⟩
        · refine List.filter_eq_nil_iff.mpr fun time htime => ?_
          have hpast := hpolled.past time htime
          simpa using hpast
        · exact Nat.le_of_eq (by rw [Nat.zero_mul]; rfl)
        · -- Older chores have numbers that were given out before.
          have hnew : (h.chores.filter fun x => x.job.isLive s'.polls k = true) = 0 := by
            rw [Multiset.filter_eq_nil]
            intro x hx hlive
            have hserial := hnumbered x hx _ (Job.serial?_of_isLive hpoll hlive)
            exact absurd hserial (Nat.lt_irrefl _)
          have hcurrent : s'.polls.isCurrent k h.session.polls.nextSerial = true := by
            unfold Polls.isCurrent
            rw [hpoll]
            simp
          change ((c + asked h.now s'.chores).filter fun x => x.job.isLive s'.polls k = true) = _
          rw [Multiset.filter_add, hchores, hnew, Multiset.zero_add, hasked]
          exact Multiset.filter_eq_self.mpr fun x hx => by
            obtain rfl := List.mem_singleton.mp (Multiset.mem_coe.mp hx)
            exact Job.isLive_poll.mpr ⟨rfl, hcurrent⟩

/-- A chore that keeps a poll of this key going is one of those that do. -/
theorem live_cons_of_live {x : Alarm Job} {polls : Polls} (hx : x.job.isLive polls k = true)
    (c : Multiset (Alarm Job)) :
    ((x ::ₘ c).filter fun x => x.job.isLive polls k = true) =
      x ::ₘ c.filter fun x => x.job.isLive polls k = true :=
  Multiset.filter_cons_of_pos c hx

/-- A chore that keeps no poll of this key going may be taken off. -/
theorem live_cons {x : Alarm Job} {polls : Polls} (hx : x.job.isLive polls k = false)
    (c : Multiset (Alarm Job)) :
    ((x ::ₘ c).filter fun x => x.job.isLive polls k = true) =
      c.filter fun x => x.job.isLive polls k = true :=
  Multiset.filter_cons_of_neg c (by simp [hx])

/-- What keeps a poll going is all there is to keep it going. -/
theorem Polled.only {now : Nat} {s : Session} {c : Multiset (Alarm Job)} {job : Job}
    (hpolled : Polled ⟨now, s, ⟨now, job⟩ ::ₘ c⟩ k risen ticked)
    (hlive : job.isLive s.polls k = true) :
    ∃ interval serial start n, s.pollingInterval? k = some interval ∧ risen = some start ∧
      ticked.filter (fun time => start < time) = beats start interval n ∧
      Beats ⟨now, s, ⟨now, job⟩ ::ₘ c⟩ k interval serial start n ∧
      (c.filter fun x => x.job.isLive s.polls k = true) = 0 ∧
      ((n = 0 ∧ now = start ∧ job = .poll k serial interval) ∨
        (now = start + (n + 1) * interval ∧
          job = .tick k serial interval (start + (n + 1) * interval))) := by
  cases hinterval : s.pollingInterval? k with
  | none =>
      have hdead := Job.isLive_of_none (hpolled.off hinterval) job
      cases hdead.symm.trans hlive
  | some interval =>
      obtain ⟨serial, start, n, hrisen, hticked, hbeats⟩ := hpolled.on interval hinterval
      have honly := hbeats.live
      have hhead : live ⟨now, s, ⟨now, job⟩ ::ₘ c⟩ k = _ := live_cons_of_live hlive c
      rw [hhead] at honly
      rcases honly with ⟨hn, hone⟩ | hone
      · obtain ⟨heq, hrest⟩ := (Multiset.singleton_eq_cons_iff _).mp hone.symm
        cases heq
        exact ⟨interval, serial, _, n, rfl, hrisen, hticked, hbeats, hrest, .inl ⟨hn, rfl, rfl⟩⟩
      · obtain ⟨heq, hrest⟩ := (Multiset.singleton_eq_cons_iff _).mp hone.symm
        obtain ⟨hnow, hjob⟩ := Alarm.mk.inj heq
        exact ⟨interval, serial, start, n, rfl, hrisen, hticked, hbeats, hrest,
          .inr ⟨hnow.symm, hjob.symm⟩⟩

/-- The first tick is set for a whole interval after the start. -/
theorem Polled.setsOut {now serial interval : Nat} {s : Session} {c : Multiset (Alarm Job)}
    {k' : Key}
    (hpolled : Polled ⟨now, s, ⟨now, .poll k' serial interval⟩ ::ₘ c⟩ k risen ticked) :
    Polled ⟨now, s, ⟨now + interval, .tick k' serial interval (now + interval)⟩ ::ₘ c⟩ k risen
      ticked := by
  cases hlive : (Job.poll k' serial interval).isLive s.polls k with
  | true =>
      obtain ⟨interval', serial', start, n, hinterval, hrisen, hticked, hbeats, hrest, hjob⟩ :=
        hpolled.only hlive
      rcases hjob with ⟨rfl, rfl, hjob⟩ | ⟨-, hjob⟩
      · cases hjob
        refine ⟨hpolled.past, hpolled.off, fun i hi => ?_⟩
        cases hinterval.symm.trans hi
        refine ⟨serial, now, 0, hrisen, hticked, hbeats.poll, hbeats.begun, .inr ?_⟩
        refine (live_cons_of_live hlive c).trans ?_
        rw [hrest, Nat.zero_add, Nat.one_mul]
        rfl
      · cases hjob
  | false =>
      refine hpolled.goesOn rfl rfl ?_ (Nat.le_refl _)
      exact (live_cons hlive c).trans (live_cons hlive c).symm

/-- After a tick the next one is set for a whole interval later. -/
theorem Polled.ticksOwn {now serial interval due : Nat} {s s' : Session} {c : Multiset (Alarm Job)}
    (hpolled : Polled ⟨now, s, ⟨now, .tick k serial interval due⟩ ::ₘ c⟩ k risen ticked)
    (hcurrent : s.polls.isCurrent k serial = true) (htells : s.Tells [] s') :
    Polled ⟨now, s', ⟨max now (Polls.nextDue interval due now),
        .tick k serial interval (Polls.nextDue interval due now)⟩ ::ₘ c⟩ k risen
      (now :: ticked) := by
  have hattends := htells.attends
  have hsame : s'.pollingInterval? k = s.pollingInterval? k :=
    Session.pollingInterval?_congr hattends.setup (hattends.attendance k)
  have hpoll : s'.polls.get? k = s.polls.get? k := by rw [hattends.polls]
  obtain ⟨interval', serial', start, n, hinterval, hrisen, hticked, hbeats, hrest, hjob⟩ :=
    hpolled.only (Job.isLive_tick.mpr ⟨rfl, hcurrent⟩)
  rcases hjob with ⟨-, -, hjob⟩ | ⟨hnow, hjob⟩
  · cases hjob
  · cases hjob
    rw [← hnow, Polls.nextDue_self, Nat.max_eq_right (Nat.le_add_right _ _)]
    have hlater : now + interval = start + (n + 1 + 1) * interval := by
      rw [Nat.succ_mul (n + 1) interval, ← Nat.add_assoc, ← hnow]
    have hafter : start < now := by
      have hpos := Session.pos_of_pollingInterval hinterval
      have hstep : interval ≤ (n + 1) * interval := Nat.le_mul_of_pos_left interval (Nat.succ_pos n)
      omega
    refine ⟨fun time htime => ?_, fun hnone => ?_, fun i hi => ?_⟩
    · rcases List.mem_cons.mp htime with rfl | hold
      · exact Nat.le_refl _
      · exact hpolled.past time hold
    · exact hpoll.trans (hpolled.off (hsame.symm.trans hnone))
    · cases hinterval.symm.trans (hsame.symm.trans hi)
      refine ⟨serial, start, n + 1, hrisen, ?_, hpoll.trans hbeats.poll,
        Nat.le_of_eq hnow.symm, .inr ?_⟩
      · rw [List.filter_cons_of_pos (by simpa using hafter), hticked, beats_succ, ← hnow]
      · have hcurrent' : s'.polls.isCurrent k serial = true := by
          rw [hattends.polls]
          exact hcurrent
        refine (live_cons_of_live (Job.isLive_tick.mpr ⟨rfl, hcurrent'⟩) c).trans ?_
        rw [live_congr hpoll, hrest, hlater]
        rfl

/-- The ticks of other keys do not matter. -/
theorem Polled.ticksOther {now serial interval due next : Nat} {s s' : Session}
    {c : Multiset (Alarm Job)} {k' : Key} (hk : k' ≠ k)
    (hpolled : Polled ⟨now, s, ⟨now, .tick k' serial interval due⟩ ::ₘ c⟩ k risen ticked)
    (htells : s.Tells [] s') :
    Polled ⟨now, s', ⟨max now next, .tick k' serial interval next⟩ ::ₘ c⟩ k risen ticked := by
  have hattends := htells.attends
  have hpoll : s'.polls.get? k = s.polls.get? k := by rw [hattends.polls]
  have hdead : ∀ (polls : Polls) (due : Nat),
      (Job.tick k' serial interval due).isLive polls k = false := by
    intro polls due
    simp [Job.isLive, hk]
  refine hpolled.goesOn (Session.pollingInterval?_congr hattends.setup (hattends.attendance k))
    hpoll ?_ (Nat.le_refl _)
  calc
    _ = c.filter fun x => x.job.isLive s'.polls k = true := live_cons (hdead _ _) c
    _ = c.filter fun x => x.job.isLive s.polls k = true := live_congr hpoll c
    _ = _ := (live_cons (hdead _ _) c).symm

/-- A chore that kept no poll of this key going is done, and what comes of it asks for nothing. -/
theorem Polled.repolls_quiet {now : Nat} {s s' : Session} {c : Multiset (Alarm Job)} {job : Job}
    (hpolled : Polled ⟨now, s, ⟨now, job⟩ ::ₘ c⟩ k risen ticked)
    (hnumbered : Numbered ⟨now, s, ⟨now, job⟩ ::ₘ c⟩)
    (hdead : ∀ polls : Polls, job.isLive polls k = false) (hrepolls : s.Repolls s' k)
    (hnone : s'.chores = []) :
    Polled ⟨now, s'.takeErrands.2, c⟩ k
      (if s.isWatched k = false ∧ s'.isWatched k = true then some now else risen) ticked := by
  have hnothing : asked now s'.chores = 0 := by
    rw [hnone]
    rfl
  have hafter := hpolled.repolls hnumbered hrepolls fun polls => (live_cons (hdead polls) c).symm
  rw [hnothing, Multiset.add_zero] at hafter
  exact hafter

/-- A grace period begins. -/
theorem Polled.begins {now due : Nat} {s : Session} {c : Multiset (Alarm Job)} {k' : Key}
    (hpolled : Polled ⟨now, s, ⟨now, .grace k'⟩ ::ₘ c⟩ k risen ticked) :
    Polled ⟨now, s, ⟨due, .evict k'⟩ ::ₘ c⟩ k risen ticked := by
  refine hpolled.goesOn rfl rfl ?_ (Nat.le_refl _)
  exact (live_cons rfl c).trans (live_cons rfl c).symm

/-- A grace period has come to its end. -/
theorem Polled.evicts {now : Nat} {s : Session} {c : Multiset (Alarm Job)} {k' : Key}
    (hpolled : Polled ⟨now, s, ⟨now, .evict k'⟩ ::ₘ c⟩ k risen ticked)
    (hnumbered : Numbered ⟨now, s, ⟨now, .evict k'⟩ ::ₘ c⟩)
    (hback : s.setup.background = true) (hnamed : s.setup.WellNamed) (hknown : s.Known)
    (hnone : s.chores = []) :
    Polled ⟨now, (s.evict now k').takeErrands.2, c⟩ k
      (if s.isWatched k = false ∧ (s.evict now k').isWatched k = true then some now else risen)
      ticked :=
  hpolled.repolls_quiet hnumbered (fun _ => rfl)
    ((Session.turnover_evict s now k' .collect).repolls hback hnamed hknown hnone
      hpolled.registered)
    ((Timeline.chores_evict s now k').trans hnone)

/-- A poll that nobody watches finds that out, and it is not the poll of a key that is polled as it is
to be. -/
theorem Polled.ceases {now serial interval due : Nat} {s : Session} {c : Multiset (Alarm Job)}
    {k' : Key} (hpolled : Polled ⟨now, s, ⟨now, .tick k' serial interval due⟩ ::ₘ c⟩ k risen ticked)
    (hnumbered : Numbered ⟨now, s, ⟨now, .tick k' serial interval due⟩ ::ₘ c⟩)
    (hback : s.setup.background = true) (hnamed : s.setup.WellNamed) (hknown : s.Known)
    (hnone : s.chores = []) (hcurrent : s.polls.isCurrent k' serial = true)
    (hunwatched : s.isWatched k' = false) :
    Polled ⟨now, { s with polls := s.polls.finish k' serial }.takeErrands.2, c⟩ k
      (if s.isWatched k = false ∧ s.isWatched k = true then some now else risen) ticked := by
  have hreg : s.Registered k := hpolled.registered
  have hother : k' ≠ k := by
    rintro rfl
    have hdead := Job.isLive_of_none (hreg.of_unwatched hunwatched) (.tick k' serial interval due)
    cases hdead.symm.trans (Job.isLive_tick.mpr ⟨rfl, hcurrent⟩)
  have hends : s.Turnover now (.tick k' serial) { s with polls := s.polls.finish k' serial } :=
    .ends hunwatched
  exact hpolled.repolls_quiet hnumbered (fun polls => by simp [Job.isLive, hother])
    (hends.repolls hback hnamed hknown hnone hreg) hnone

/-- A chore that is left over from a poll of before is passed over. -/
theorem Polled.lapses {now serial interval due : Nat} {s : Session} {c : Multiset (Alarm Job)}
    {k' : Key} (hpolled : Polled ⟨now, s, ⟨now, .tick k' serial interval due⟩ ::ₘ c⟩ k risen ticked)
    (hover : s.polls.isCurrent k' serial = false) : Polled ⟨now, s, c⟩ k risen ticked := by
  have hdead : (Job.tick k' serial interval due).isLive s.polls k = false := by
    refine Bool.eq_false_iff.mpr fun hlive => ?_
    obtain ⟨rfl, hcurrent⟩ := Job.isLive_tick.mp hlive
    cases hover.symm.trans hcurrent
  exact hpolled.goesOn rfl rfl (live_cons hdead c).symm (Nat.le_refl _)

/-- **The poll of a key is kept in step.** -/
theorem Step.polled (hstep : Step m h h') (hback : h.session.setup.background = true)
    (hnamed : h.session.setup.WellNamed) (hknown : h.session.Known) (hnumbered : h.Numbered)
    (hpolled : h.Polled k risen ticked) :
    h'.Polled k
      (if h.session.isWatched k = false ∧ h'.session.isWatched k = true then some h.now else risen)
      (if m = .tick k then h.now :: ticked else ticked) := by
  have hstill : ∀ s : Session, ¬ (s.isWatched k = false ∧ s.isWatched k = true) := by
    rintro s ⟨hbefore, hafter⟩
    cases hbefore.symm.trans hafter
  have hplain : ¬ (Mark.plain = .tick k) := by simp
  cases hstep with
  | turns _ hnone hturn =>
      rw [if_neg hplain]
      exact hpolled.repolls hnumbered
        (hturn.repolls hback hnamed hknown hnone hpolled.registered) fun _ => rfl
  | @resets now s c =>
      have hgone : s.reset.takeErrands.2.isWatched k = false := by
        change s.reset.isWatched k = false
        rw [Session.isWatched_eq, Session.attendance_reset]
        rfl
      exact polled_off hpolled.past (Session.pollingInterval?_of_unwatched hgone)
        (Polls.get?_clear s.polls k)
  | @waits now now' s c hlater =>
      rw [if_neg hplain, if_neg (hstill s)]
      exact hpolled.goesOn rfl rfl rfl hlater
  | @begins now s =>
      rw [if_neg hplain, if_neg (hstill s)]
      exact hpolled.begins
  | evicts k' hnone =>
      rw [if_neg hplain]
      exact hpolled.evicts hnumbered hback hnamed hknown hnone
  | @setsOut now s =>
      rw [if_neg hplain, if_neg (hstill s)]
      exact hpolled.setsOut
  | @ticks now s s' c k' serial interval due hcurrent hwatched htells =>
      have hrise : ¬ (s.isWatched k = false ∧ s'.isWatched k = true) := by
        rw [Session.isWatched_congr (htells.attends.attendance k)]
        exact hstill s
      rw [if_neg hrise]
      by_cases hk : k' = k
      · subst hk
        rw [if_pos rfl]
        exact hpolled.ticksOwn hcurrent htells
      · rw [if_neg (by simpa using hk)]
        exact hpolled.ticksOther hk htells
  | ceases hnone hcurrent hunwatched =>
      rw [if_neg hplain]
      exact hpolled.ceases hnumbered hback hnamed hknown hnone hcurrent hunwatched
  | @lapses now s c k' serial interval due hover =>
      rw [if_neg hplain, if_neg (hstill s)]
      exact hpolled.lapses hover

end Household

/-- When the next tick comes of a poll that a job keeps going. -/
def Alarm.nextTick (x : Alarm Job) : Nat :=
  match x.job with
  | .poll _ _ interval => x.due + interval
  | _ => x.due

namespace Timeline

variable {σ : Type}

/-- When the polls of a key that are going tick next. -/
def ticksAhead (t : Timeline σ) (k : Key) : Multiset Nat :=
  (t.agenda.pending.filter fun x => x.job.isLive t.session.polls k = true).map Alarm.nextTick

/-- When the number of those who watch an entry last rose from none. -/
def risenAt (t : Timeline σ) (k : Key) : List Move → Option Nat
  | [] => none
  | m :: h =>
    if (t.moved h).session.isWatched k = false ∧ (t.moved (m :: h)).session.isWatched k = true then
      some (t.moved h).now
    else t.risenAt k h

/-- When polls of a key have ticked, the latest first. -/
def ticked (t : Timeline σ) (k : Key) : List Move → List Nat
  | [] => []
  | m :: h =>
    if (t.moved h).mark m = .tick k then (t.moved h).now :: t.ticked k h else t.ticked k h

/-- A key is polled just while it is watched and has an interval, by one poll, whose ticks have come
and will come at whole multiples of the interval since the first came to watch. -/
structure PolledWhileWatched (t : Timeline σ) (h : List Move) (k : Key) : Prop where
  active : (t.moved h).session.polls.isActive k =
    ((t.moved h).session.pollingInterval? k).isSome
  off : (t.moved h).session.pollingInterval? k = none → (t.moved h).ticksAhead k = 0
  on : ∀ interval, (t.moved h).session.pollingInterval? k = some interval →
    ∃ start n, t.risenAt k h = some start ∧
      (t.ticked k h).filter (fun time => start < time) = Household.beats start interval n ∧
      (t.moved h).ticksAhead k = {start + (n + 1) * interval} ∧
      start + n * interval ≤ (t.moved h).now ∧
      (t.moved h).now ≤ start + (n + 1) * interval ∧
      ((t.moved h).CaughtUp → (t.moved h).now < start + (n + 1) * interval)

/-- What keeps a poll going is a chore. -/
theorem live_household (t : Timeline σ) (k : Key) : t.household.live k =
    t.agenda.pending.filter fun x => x.job.isLive t.session.polls k = true := by
  let keeps (x : Alarm Job) : Prop := x.job.isLive t.session.polls k = true
  exact (Multiset.filter_filter keeps _ t.agenda.pending).trans
    (Multiset.filter_congr fun x _ => ⟨fun hx => hx.1, fun hx => ⟨hx, Job.isChore_of_isLive hx⟩⟩)

section Runs

variable {setup : Setup} (answer : Request → σ → Reply × σ) (server : σ) (h : List Move)

/-- What is known of every key is so after all moves. -/
theorem known_moved (hnamed : setup.WellNamed) :
    ((start setup answer server).moved h).session.Known := by
  obtain ⟨since, hfollows⟩ := reached_moved setup answer server h
  rw [hfollows.session]
  exact (Situation.tidy_after hnamed (since ++ [])).2.2

/-- No number is given twice, after all moves. -/
theorem numbered_moved : ((start setup answer server).moved h).household.Numbered := by
  induction h with
  | nil => exact nofun
  | cons m h ih => exact (step_moved setup answer server h m).numbered ih

/-- Every key is polled as it is to be, after all moves. -/
theorem polled_moved (hnamed : setup.WellNamed) (hback : setup.background = true) (k : Key) :
    ((start setup answer server).moved h).household.Polled k
      ((start setup answer server).risenAt k h) ((start setup answer server).ticked k h) := by
  induction h with
  | nil =>
      have hnobody : (start setup answer server).session.isWatched k = false := by
        rw [Session.isWatched_eq, attendance_start]
        rfl
      exact Household.polled_off nofun (Session.pollingInterval?_of_unwatched hnobody) (by
        simp [household, session, start, Session.start, Polls.get?, Polls.empty, moved])
  | cons m h ih =>
      have hsetup := (setup_moved setup answer server h).1
      refine (step_moved setup answer server h m).polled ?_ ?_
        (known_moved answer server h hnamed) (numbered_moved answer server h) ih
      · exact (congrArg Setup.background hsetup).trans hback
      · exact hsetup.symm ▸ hnamed

end Runs

/-- A client of one endpoint, which is polled every ten milliseconds. -/
def regular : Setup where
  endpoints := Setup.catalog
    [⟨"n", fun _ => ⟨.get, "/", [], none⟩, fun _ _ => [], some "c", true⟩]
  cascade := .empty
  options := { Options.standard with intervals := [("c", 10)] }
  background := true

def regularKey : Key := .ofCall "n" .null

/-- A subscriber comes, goes before the first tick, and comes back when that would have been. -/
def returned : List Move :=
  settledUntil 35 ++ settledUntil 35 ++ settledUntil 35 ++ [.subscribe "n" .null] ++
    settledUntil 12 ++ settledUntil 12 ++ [.unsubscribe ⟨1, regularKey⟩] ++
    settledUntil 7 ++ [.subscribe "n" .null]

end Timeline

end QueryCache
