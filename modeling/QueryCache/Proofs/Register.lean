import QueryCache.Proofs.Naming
import QueryCache.Proofs.Turnover
/-!
# The register of polls

A key is on the register exactly while it is to be polled: as long as somebody watches its entry
and the class of the entry's endpoint has an interval (`Registered`).  `Repolls` is what any event
can do to the polling of one key: it goes on as before, undisturbed by whoever else comes and goes,
or it is off, or it starts, and then nobody has watched before.
-/

namespace QueryCache

namespace Polls

variable {p : Polls} {k k' : Key} {interval serial : Nat}

/-- A poll that is put on the register is there for its key alone. -/
theorem get?_insert (p : Polls) (k k' : Key) (poll : Poll) (n : Nat) :
    get? ⟨p.polls.insert k poll, n⟩ k' = if k' = k then some poll else p.get? k' := by
  unfold get?
  rw [Std.ExtTreeMap.getElem?_insert]
  by_cases hk : k' = k
  · rw [if_pos hk, hk, if_pos Std.compare_self]
  · rw [if_neg hk, if_neg (by simpa using Ne.symm hk)]

/-- A key that is not on the register gets the next number. -/
theorem register_of_none (h : p.get? k = none) (interval : Nat) : p.register k interval =
    (some p.nextSerial,
      ⟨p.polls.insert k ⟨interval, p.nextSerial, false⟩, p.nextSerial + 1⟩) := by
  simp only [register, h]

/-- A poll that is under way at this interval goes on. -/
theorem register_of_same (h : p.get? k = some ⟨interval, serial, false⟩) :
    p.register k interval = (none, p) := by
  simp [register, h]

/-- Other keys are registered as before. -/
theorem get?_register_ne (hk : k' ≠ k) (interval : Nat) :
    (p.register k interval).2.get? k' = p.get? k' := by
  unfold register
  split
  · split
    · rfl
    · exact (get?_insert _ _ _ _ _).trans (if_neg hk)
  · exact (get?_insert _ _ _ _ _).trans (if_neg hk)

/-- A key is struck off, and no other. -/
theorem get?_unregister (p : Polls) (k k' : Key) :
    (p.unregister k).2.get? k' = if k' = k then none else p.get? k' := by
  change (p.polls.erase k)[k']? = _
  rw [Std.ExtTreeMap.getElem?_erase]
  by_cases hk : k' = k
  · rw [if_pos hk, hk, if_pos Std.compare_self]
  · rw [if_neg hk, if_neg (by simpa using Ne.symm hk)]
    rfl

/-- Keys are struck off together, and no others. -/
theorem get?_unregisters (l : List Key) (p : Polls) (k : Key) :
    (l.foldl (fun p k => (p.unregister k).2) p).get? k = if k ∈ l then none else p.get? k := by
  induction l generalizing p with
  | nil => rfl
  | cons k' l ih =>
      rw [List.foldl_cons, ih, get?_unregister]
      by_cases hk : k = k'
      · simp [hk]
      · simp [hk]

/-- A poll that ends is struck off for its key alone. -/
theorem get?_finish_ne (hk : k' ≠ k) (serial : Nat) :
    (p.finish k serial).get? k' = p.get? k' := by
  unfold finish
  split
  · split
    · exact (get?_insert _ _ _ _ _).trans (if_neg hk)
    · rfl
  · rfl

/-- Without a poll there is none to end. -/
theorem finish_of_none (h : p.get? k = none) (serial : Nat) : p.finish k serial = p := by
  simp only [finish, h]

/-- Numbers are given out in order. -/
theorem nextSerial_register (p : Polls) (k : Key) (interval : Nat) :
    p.nextSerial ≤ (p.register k interval).2.nextSerial ∧
      ∀ serial ∈ (p.register k interval).1, serial < (p.register k interval).2.nextSerial := by
  unfold register
  split
  · split
    · exact ⟨Nat.le_refl _, nofun⟩
    · simp
  · simp

/-- Numbers are not given back when a poll ends. -/
theorem nextSerial_finish (p : Polls) (k : Key) (serial : Nat) :
    (p.finish k serial).nextSerial = p.nextSerial := by
  unfold finish
  split
  · split <;> rfl
  · rfl

/-- Numbers are not given back when keys are struck off. -/
theorem nextSerial_unregisters (l : List Key) (p : Polls) :
    (l.foldl (fun p k => (p.unregister k).2) p).nextSerial = p.nextSerial := by
  induction l generalizing p with
  | nil => rfl
  | cons k l ih => exact ih (p.unregister k).2

/-- After a tick that came on time the next one is due a whole interval later. -/
theorem nextDue_self (interval now : Nat) : nextDue interval now now = now + interval :=
  if_neg (by omega)

/-- A cleared register has no poll. -/
theorem get?_clear (p : Polls) (k : Key) : p.clear.get? k = none := by
  simp [clear, get?]

end Polls

namespace Session

/-- The interval at which a key is to be polled: that of its endpoint's class, as long as somebody
watches. -/
def pollingInterval? (s : Session) (k : Key) : Option Nat :=
  if s.isWatched k then
    s.read k >>= fun e => s.endpoint? e.endpoint >>= fun endpoint => s.pollInterval? endpoint
  else none

/-- Whoever is to be polled is on the register, and nobody else. -/
def Registered (s : Session) (k : Key) : Prop :=
  match s.pollingInterval? k with
  | none => s.polls.get? k = none
  | some interval => ∃ serial, s.polls.get? k = some ⟨interval, serial, false⟩

/-- What an event does to the polling of a key. -/
inductive Repolls (s s' : Session) (k : Key) : Prop
  | off (hinterval : s'.pollingInterval? k = none) (hpoll : s'.polls.get? k = none)
  | goesOn (hinterval : s'.pollingInterval? k = s.pollingInterval? k)
      (hpoll : s'.polls.get? k = s.polls.get? k)
      (hrise : s'.isWatched k = true → s.isWatched k = true)
      (hchores : ∀ serial interval, .poll k serial interval ∉ s'.chores)
  | starts {interval : Nat} (hbefore : s.isWatched k = false) (hafter : s'.isWatched k = true)
      (hinterval : s'.pollingInterval? k = some interval)
      (hpoll : s'.polls.get? k = some ⟨interval, s.polls.nextSerial, false⟩)
      (hchores : s'.chores = [.poll k s.polls.nextSerial interval])

variable {s s' : Session} {k : Key}

/-- An interval is never zero. -/
theorem pos_of_pollInterval {endpoint : Endpoint} {interval : Nat}
    (h : s.pollInterval? endpoint = some interval) : 0 < interval := by
  obtain ⟨pollClass, -, hclass⟩ := Option.bind_eq_some_iff.mp h
  exact of_decide_eq_true (Option.filter_eq_some_iff.mp hclass).2

/-- The interval is told by the attendance. -/
theorem pollingInterval?_eq (s : Session) (k : Key) : s.pollingInterval? k =
    (s.attendance k).bind fun a =>
      if a.isWatched then s.endpoint? a.endpoint >>= s.pollInterval? else none := by
  unfold pollingInterval?
  rw [isWatched_eq]
  unfold attendance
  cases s.read k <;> rfl

/-- An entry that nobody watches is not to be polled. -/
theorem pollingInterval?_of_unwatched (h : s.isWatched k = false) :
    s.pollingInterval? k = none := if_neg (by simp [h])

/-- An interval is not zero. -/
theorem pos_of_pollingInterval {interval : Nat} (h : s.pollingInterval? k = some interval) :
    0 < interval := by
  unfold pollingInterval? at h
  split at h
  · obtain ⟨e, -, hfound⟩ := Option.bind_eq_some_iff.mp h
    obtain ⟨endpoint, -, hinterval⟩ := Option.bind_eq_some_iff.mp hfound
    exact pos_of_pollInterval hinterval
  · cases h

/-- The interval is settled by who watches. -/
theorem pollingInterval?_congr (hsetup : s'.setup = s.setup)
    (hattendance : s'.attendance k = s.attendance k) :
    s'.pollingInterval? k = s.pollingInterval? k := by
  rw [pollingInterval?_eq, pollingInterval?_eq, hattendance]
  unfold endpoint? pollInterval?
  rw [hsetup]

/-- Whether a key is watched is told by its attendance. -/
theorem isWatched_congr (hattendance : s'.attendance k = s.attendance k) :
    s'.isWatched k = s.isWatched k := by
  rw [isWatched_eq, isWatched_eq, hattendance]

/-- A key of which nothing has changed. -/
theorem Repolls.of_same (hsetup : s'.setup = s.setup)
    (hattendance : s'.attendance k = s.attendance k) (hpoll : s'.polls.get? k = s.polls.get? k)
    (hchores : ∀ serial interval, .poll k serial interval ∉ s'.chores) : s.Repolls s' k :=
  .goesOn (pollingInterval?_congr hsetup hattendance) hpoll
    (fun h => (isWatched_congr hattendance).symm.trans h) hchores

/-- Nobody watches, and there was no poll or there is none any more. -/
theorem Repolls.of_unwatched (hunwatched : s'.isWatched k = false)
    (hpoll : s'.polls.get? k = none) : s.Repolls s' k :=
  .off (pollingInterval?_of_unwatched hunwatched) hpoll

/-- A key that nobody watches is not on the register. -/
theorem Registered.of_unwatched (h : s.Registered k) (hunwatched : s.isWatched k = false) :
    s.polls.get? k = none := by
  unfold Registered at h
  rw [pollingInterval?_of_unwatched hunwatched] at h
  exact h

/-- Whoever subscribes to a call finds an entry of the endpoint of the call. -/
theorem endpoint_of_comes (hnamed : s.setup.WellNamed) (hknown : s.Known) {name : String}
    {endpoint : Endpoint} (hlookup : s.lookup name = .ok endpoint) (args : Json) (now : Nat) :
    s.endpoint? ((s.attendance (endpoint.keyOf args)).getD (.made endpoint.name now)).endpoint =
      some endpoint := by
  have hlists := Situation.lists_of_lookup hnamed hlookup
  cases hread : s.read (endpoint.keyOf args) with
  | none =>
      unfold attendance
      rw [hread]
      exact hlists
  | some e =>
      obtain ⟨other, hother, -, hkey⟩ := hknown.serves hread
      have hnames : other.name = endpoint.name := Key.ofCall_name hkey
      have hown : other.name = e.endpoint := hnamed e.endpoint other hother
      unfold attendance
      rw [hread]
      change s.setup.endpoints[e.endpoint]? = some endpoint
      rw [← hown, hnames]
      exact hlists

/-- With the first to come the poll of an endpoint starts that is to be polled. -/
theorem startsAt_of_first (hback : s.setup.background = true) (endpoint : Endpoint)
    {a : Attendance} (hunwatched : a.isWatched = false) (subscriber : Nat) :
    s.startsAt endpoint (a.joinedBy subscriber) = s.pollInterval? endpoint := by
  have hempty : a.subscribers = ∅ :=
    Std.ExtTreeSet.isEmpty_iff.mp (by simpa [Attendance.isWatched] using hunwatched)
  have hsize : (a.joinedBy subscriber).subscribers.size = 1 := by
    simp [Attendance.joinedBy, hempty, Std.ExtTreeSet.size_insert]
  exact if_pos ⟨hback, hsize⟩

/-- A poll that sets out leaves other keys alone. -/
theorem setsOut_other {k' : Key} (hk : k ≠ k') (interval : Option Nat) :
    (s.setsOut k' interval).1.get? k = s.polls.get? k ∧
      ∀ serial i, .poll k serial i ∉ (s.setsOut k' interval).2 := by
  cases interval with
  | none => exact ⟨rfl, by simp [setsOut]⟩
  | some interval =>
      refine ⟨Polls.get?_register_ne hk interval, fun serial i hmem => ?_⟩
      obtain ⟨serial', -, heq⟩ := List.mem_map.mp hmem
      cases heq
      exact hk rfl

/-- Somebody comes to an entry that others watch: the poll, if there is one, is not disturbed. -/
theorem setsOut_beside (hreg : s.Registered k) {endpoint : Endpoint} {a : Attendance}
    (hsame : s.pollingInterval? k = s.pollInterval? endpoint) :
    s.setsOut k (s.startsAt endpoint a) = (s.polls, []) := by
  unfold Registered at hreg
  rw [hsame] at hreg
  unfold startsAt
  cases hpolled : s.pollInterval? endpoint with
  | none => simp [setsOut]
  | some interval =>
      rw [hpolled] at hreg
      obtain ⟨serial, hpoll⟩ := hreg
      split <;> simp [setsOut, Polls.register_of_same hpoll]

/-- Whoever finds an entry watched finds it as it was. -/
theorem attendance_of_watched {a : Attendance} {name : String} {now : Nat}
    (hthere : a = (s.attendance k).getD (.made name now)) (hwatched : a.isWatched = true) :
    s.attendance k = some a := by
  cases hbefore : s.attendance k with
  | none =>
      rw [hthere, hbefore] at hwatched
      cases (Attendance.isWatched_made name now).symm.trans hwatched
  | some b => rw [hthere, hbefore]; rfl

/-- An entry that its first subscriber found was watched by nobody. -/
theorem isWatched_of_unwatched {a : Attendance} {name : String} {now : Nat}
    (hthere : a = (s.attendance k).getD (.made name now)) (hunwatched : a.isWatched = false) :
    s.isWatched k = false := by
  rw [isWatched_eq]
  rw [hthere] at hunwatched
  cases hbefore : s.attendance k with
  | none => rfl
  | some b =>
      rw [hbefore] at hunwatched
      exact hunwatched

/-- Somebody comes.  Unless others have watched before, the poll starts then, if there is to be
one. -/
theorem repolls_comes (hback : s.setup.background = true) (hreg : s.Registered k)
    {endpoint : Endpoint} {a : Attendance} {name : String} {now subscriber : Nat}
    (hthere : a = (s.attendance k).getD (.made name now))
    (hendpoint : s.endpoint? a.endpoint = some endpoint)
    (hseats : s.Seats s' k (a.joinedBy subscriber))
    (hpolls : s'.polls = (s.setsOut k (s.startsAt endpoint (a.joinedBy subscriber))).1)
    (hchores : s'.chores = (s.setsOut k (s.startsAt endpoint (a.joinedBy subscriber))).2) :
    s.Repolls s' k := by
  have hseat : s'.attendance k = some (a.joinedBy subscriber) :=
    (hseats.attendance k).trans (if_pos rfl)
  have hjoined := Attendance.isWatched_joinedBy a subscriber
  have hafter : s'.isWatched k = true := by
    rw [isWatched_eq, hseat]
    exact hjoined
  have hinterval : s'.pollingInterval? k = s.pollInterval? endpoint := by
    rw [pollingInterval?_eq, hseat, Option.bind_some, if_pos hjoined]
    unfold endpoint? pollInterval? at *
    rw [hseats.setup]
    exact congrArg (· >>= fun e : Endpoint => e.pollClass >>= s.setup.options.interval?) hendpoint
  cases hwatched : a.isWatched with
  | true =>
      have hseated := attendance_of_watched hthere hwatched
      have hsame : s.pollingInterval? k = s.pollInterval? endpoint := by
        rw [pollingInterval?_eq, hseated, Option.bind_some, if_pos hwatched, hendpoint]
        rfl
      rw [setsOut_beside hreg hsame] at hpolls hchores
      refine .goesOn (hinterval.trans hsame.symm) (by rw [hpolls]) (fun _ => ?_) (by simp [hchores])
      rw [isWatched_eq, hseated]
      exact hwatched
  | false =>
      have hbefore := isWatched_of_unwatched hthere hwatched
      have hnone := hreg.of_unwatched hbefore
      rw [startsAt_of_first hback endpoint hwatched] at hpolls hchores
      cases hpolled : s.pollInterval? endpoint with
      | none =>
          rw [hpolled] at hpolls hinterval
          exact .off hinterval (hpolls ▸ hnone)
      | some interval =>
          rw [hpolled] at hpolls hchores hinterval
          simp only [setsOut, Polls.register_of_none hnone] at hpolls hchores
          refine .starts hbefore hafter hinterval ?_ hchores
          rw [hpolls, Polls.get?_insert, if_pos rfl]

/-- A grace period that begins starts no poll. -/
theorem not_poll_mem_graces (s : Session) (k k' : Key) (serial interval : Nat) :
    .poll k serial interval ∉ s.graces k' := by
  unfold graces
  split <;> simp

/-- Where no more is asked for than before, no poll is. -/
theorem no_poll_of_same (hsame : s'.chores = s.chores) (hnone : s.chores = []) (k : Key)
    (serial interval : Nat) : .poll k serial interval ∉ s'.chores := by
  rw [hsame, hnone]
  exact List.not_mem_nil

/-! ## One lemma for each thing that happens to an entry -/

/-- Somebody comes to another entry, or leaves it. -/
theorem Seats.repolls_other {k' : Key} {a : Attendance} (h : s.Seats s' k' a) (hk : k ≠ k')
    (hpoll : s'.polls.get? k = s.polls.get? k)
    (hchores : ∀ serial interval, .poll k serial interval ∉ s'.chores) : s.Repolls s' k :=
  .of_same h.setup ((h.attendance k).trans (if_neg hk)) hpoll hchores

/-- Somebody leaves, and others stay. -/
theorem Seats.repolls_leaves {a : Attendance} {subscriber now : Nat}
    (h : s.Seats s' k (a.leftBy subscriber now)) (hthere : s.attendance k = some a)
    (hmem : subscriber ∈ a.subscribers) (hrest : (a.leftBy subscriber now).isWatched = true)
    (hpolls : s'.polls = s.polls)
    (hchores : ∀ serial interval, .poll k serial interval ∉ s'.chores) : s.Repolls s' k := by
  have hseat : s'.attendance k = some (a.leftBy subscriber now) := (h.attendance k).trans (if_pos rfl)
  have hbefore := Attendance.isWatched_of_mem hmem
  refine .goesOn ?_ (by rw [hpolls]) (fun _ => ?_) hchores
  · rw [pollingInterval?_eq, pollingInterval?_eq, hseat, hthere, Option.bind_some,
      Option.bind_some, if_pos hrest, if_pos hbefore]
    unfold endpoint? pollInterval?
    rw [h.setup]
    rfl
  · rw [isWatched_eq, hthere]
    exact hbefore

/-- The entry is left without a subscriber, and its poll has been struck off or never was. -/
theorem Seats.repolls_empty {a : Attendance} (h : s.Seats s' k a) (hempty : a.isWatched = false)
    (hpoll : s'.polls.get? k = none) : s.Repolls s' k := by
  refine .of_unwatched ?_ hpoll
  rw [isWatched_eq, h.attendance, if_pos rfl]
  exact hempty

/-- Entries are dropped that nobody has watched. -/
theorem Drops.repolls {l : List Key} (h : s.Drops s' l) (hidle : ∀ k ∈ l, s.isWatched k = false)
    (hreg : s.Registered k) (hchores : ∀ serial interval, .poll k serial interval ∉ s'.chores) :
    s.Repolls s' k := by
  by_cases hk : k ∈ l
  · refine .of_unwatched ?_ ?_
    · unfold isWatched
      rw [h.read, if_pos hk]
      rfl
    · rcases h.polls with hpolls | hpolls
      · rw [hpolls]
        exact hreg.of_unwatched (hidle k hk)
      · rw [hpolls, Polls.get?_unregisters, if_pos hk]
  · refine .of_same h.setup ?_ ?_ hchores
    · unfold attendance
      rw [h.read, if_neg hk]
    · rcases h.polls with hpolls | hpolls
      · rw [hpolls]
      · rw [hpolls, Polls.get?_unregisters, if_neg hk]

/-- A poll ends that nobody watches. -/
theorem repolls_finish {k' : Key} (hunwatched : s.isWatched k' = false) (hreg : s.Registered k)
    (serial : Nat) (hchores : ∀ serial interval, .poll k serial interval ∉ s.chores) :
    s.Repolls { s with polls := s.polls.finish k' serial } k := by
  by_cases hk : k = k'
  · subst hk
    have hpoll := hreg.of_unwatched hunwatched
    refine .of_unwatched hunwatched ?_
    change (s.polls.finish k serial).get? k = none
    rw [Polls.finish_of_none hpoll]
    exact hpoll
  · exact .of_same rfl rfl (Polls.get?_finish_ne hk serial) hchores

/-- **What an event does to the polling of a key.** -/
theorem Turnover.repolls {now : Nat} {e : Event} (h : s.Turnover now e s')
    (hback : s.setup.background = true) (hnamed : s.setup.WellNamed) (hknown : s.Known)
    (hnone : s.chores = []) (hreg : s.Registered k) : s.Repolls s' k := by
  cases h with
  | tells htells =>
      have hattends := htells.attends
      exact .of_same hattends.setup (hattends.attendance k) (by rw [hattends.polls])
        (no_poll_of_same hattends.chores hnone k)
  | @comes name args _ endpoint a subscriber hlookup hthere hseats hpolls hchores =>
      rw [hnone, List.nil_append] at hchores
      have hendpoint := endpoint_of_comes hnamed hknown hlookup args now
      rw [← hthere] at hendpoint
      by_cases hk : k = endpoint.keyOf args
      · subst hk
        exact repolls_comes hback hreg hthere hendpoint hseats hpolls hchores
      · obtain ⟨hpoll, hnobody⟩ :=
          s.setsOut_other hk (s.startsAt endpoint (a.joinedBy subscriber))
        exact hseats.repolls_other hk (hpolls ▸ hpoll) (hchores ▸ hnobody)
  | @leaves t _ a hthere hmem hrest hseats hpolls hchores =>
      have hnobody := no_poll_of_same hchores hnone k
      by_cases hk : k = t.key
      · subst hk
        exact hseats.repolls_leaves hthere hmem hrest hpolls hnobody
      · exact hseats.repolls_other hk (by rw [hpolls]) hnobody
  | @leavesLast t _ a hthere hmem hrest hseats hpolls hchores =>
      rw [hnone, List.nil_append] at hchores
      have hpoll : s'.polls.get? k = if k = t.key then none else s.polls.get? k := by
        rw [hpolls, Polls.get?_unregister]
      by_cases hk : k = t.key
      · subst hk
        exact hseats.repolls_empty hrest (hpoll.trans (if_pos rfl))
      · exact hseats.repolls_other hk (hpoll.trans (if_neg hk))
          (hchores ▸ s.not_poll_mem_graces k t.key)
  | @makes name args _ endpoint hlookup habsent hseats hpolls hchores =>
      rw [hnone, List.nil_append] at hchores
      by_cases hk : k = endpoint.keyOf args
      · subst hk
        have hbefore : s.isWatched (endpoint.keyOf args) = false := by
          rw [isWatched_eq, habsent]
          rfl
        exact hseats.repolls_empty (Attendance.isWatched_made endpoint.name now)
          (hpolls ▸ hreg.of_unwatched hbefore)
      · exact hseats.repolls_other hk (by rw [hpolls]) (hchores ▸ s.not_poll_mem_graces k _)
  | @drops _ _ l hover hdrops =>
      refine hdrops.repolls (fun k hk => ?_) hreg (no_poll_of_same hdrops.chores hnone k)
      obtain ⟨a, ha, hunwatched, -⟩ := hover k hk
      rw [isWatched_eq, ha]
      exact hunwatched
  | clears =>
      refine .of_unwatched ?_ (Polls.get?_clear s.polls k)
      rw [isWatched_eq, attendance_reset]
      rfl
  | ends hunwatched => exact repolls_finish hunwatched hreg _ (no_poll_of_same rfl hnone k)

/-- The number of a poll that is asked for has been given out. -/
theorem Turnover.serials {now : Nat} {e : Event} (h : s.Turnover now e s')
    (hnone : s.chores = []) : s.polls.nextSerial ≤ s'.polls.nextSerial ∧
      ∀ k serial interval, .poll k serial interval ∈ s'.chores → serial < s'.polls.nextSerial := by
  have hquiet : s'.polls.nextSerial = s.polls.nextSerial →
      (∀ k serial interval, .poll k serial interval ∉ s'.chores) →
      s.polls.nextSerial ≤ s'.polls.nextSerial ∧
        ∀ k serial interval, .poll k serial interval ∈ s'.chores →
          serial < s'.polls.nextSerial := fun hsame hnobody =>
    ⟨Nat.le_of_eq hsame.symm, fun k serial interval hmem =>
      absurd hmem (hnobody k serial interval)⟩
  cases h with
  | tells htells =>
      exact hquiet (by rw [htells.attends.polls]) (no_poll_of_same htells.attends.chores hnone)
  | comes _ _ _ hpolls hchores =>
      rw [hnone, List.nil_append] at hchores
      rw [hpolls, hchores]
      cases s.startsAt _ _ with
      | none => exact ⟨Nat.le_refl _, by simp [setsOut]⟩
      | some interval =>
          obtain ⟨hle, hnew⟩ := Polls.nextSerial_register s.polls _ interval
          refine ⟨hle, fun k serial i hmem => ?_⟩
          obtain ⟨serial', hserial, heq⟩ := List.mem_map.mp hmem
          cases heq
          exact hnew serial (Option.mem_toList.mp hserial)
  | leaves _ _ _ _ hpolls hchores =>
      exact hquiet (by rw [hpolls]) (no_poll_of_same hchores hnone)
  | leavesLast _ _ _ _ hpolls hchores =>
      refine hquiet (by rw [hpolls]; rfl) fun k serial interval => ?_
      rw [hchores, hnone, List.nil_append]
      exact s.not_poll_mem_graces k _ serial interval
  | makes _ _ _ hpolls hchores =>
      refine hquiet (by rw [hpolls]) fun k serial interval => ?_
      rw [hchores, hnone, List.nil_append]
      exact s.not_poll_mem_graces k _ serial interval
  | drops _ hdrops =>
      refine hquiet ?_ (no_poll_of_same hdrops.chores hnone)
      rcases hdrops.polls with hpolls | hpolls
      · rw [hpolls]
      · rw [hpolls, Polls.nextSerial_unregisters]
  | clears => exact hquiet rfl (no_poll_of_same rfl hnone)
  | ends => exact hquiet (Polls.nextSerial_finish _ _ _) (no_poll_of_same rfl hnone)

end Session

end QueryCache
