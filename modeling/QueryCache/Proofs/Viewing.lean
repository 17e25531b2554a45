import QueryCache.Proofs.Freshness
import QueryCache.Proofs.Turnover
/-!
# What a viewer shows

A viewer looks at its entry only when the feed tells it to, and the feed forgets.  Still, after
every poll the display is that of the entry as it is then, and a poll that finds nothing to do has
left a display that was so already (`poll_shows_present`).  The invariant is `Keeping`: the display
is that of the entry, or an update of the viewer's own key has been sent that it has not read.

Only a drop changes what is to be seen without an update, and nobody drops an entry that is watched.
So the viewer must be among those who watch; a ticket made up with its number takes it off, and then
it may miss the end of its entry (`poll_misses_drop`).
-/

namespace QueryCache

namespace Viewer

/-- The display is that of the entry, or the feed holds or has held news of it. -/
structure Current (v : Viewer) (s : Session) : Prop where
  place : v.place ≤ s.updates.position
  shown : v.display = s.displayAt v.ticket.key ∨
    ∃ u ∈ s.updates.sent.take (s.updates.position - v.place), u.key = v.ticket.key

/-- The viewer is one of those who watch its entry. -/
def Watches (v : Viewer) (s : Session) : Prop :=
  ∃ a, s.attendance v.ticket.key = some a ∧ v.ticket.id ∈ a.subscribers

structure Keeping (v : Viewer) (s : Session) : Prop where
  watches : v.Watches s
  current : v.Current s

/-- A poll ends with the display of the entry, and if it finds nothing to do the display was that
before. -/
structure ShowsPresent (v : Viewer) (s : Session) : Prop where
  poll : (v.poll s).2.display = s.displayAt v.ticket.key
  idle : (v.poll s).1 = false → v.display = s.displayAt v.ticket.key

variable {v : Viewer} {s s' : Session}

/-! ## Reading the feed -/

/-- A reader that lost nothing has all that was sent since its place. -/
theorem messages_of_lost (h : ¬ (s.updates.since v.place).lost > 0) :
    (s.updates.since v.place).messages =
      (s.updates.sent.take (s.updates.position - v.place)).reverse := by
  have hkept : min (s.updates.position - v.place) s.updates.capacity =
      s.updates.position - v.place := by
    simp only [Feed.since] at h
    omega
  simp only [Feed.since, hkept]

/-- Whoever finds no news is up to date. -/
theorem Current.of_quiet (h : v.Current s) (hlost : ¬ (s.updates.since v.place).lost > 0)
    (hnone : ∀ u ∈ (s.updates.since v.place).messages, u.key ≠ v.ticket.key) :
    v.display = s.displayAt v.ticket.key := by
  rw [messages_of_lost hlost] at hnone
  rcases h.shown with hsame | ⟨u, hu, hown⟩
  · exact hsame
  · exact absurd hown (hnone u (List.mem_reverse.mpr hu))

/-- A viewer with news to come shows the present after a poll. -/
theorem Current.showsPresent (h : v.Current s) : v.ShowsPresent s := by
  have hidle : (v.poll s).1 = false → v.display = s.displayAt v.ticket.key := by
    intro hclean
    simp only [poll, Bool.or_eq_false_iff, decide_eq_false_iff_not] at hclean
    refine h.of_quiet hclean.1 fun u hu hown => ?_
    have hquiet := List.any_eq_false.mp hclean.2 u hu
    simp [hown] at hquiet
  refine ⟨?_, hidle⟩
  cases hdirty : (v.poll s).1 with
  | true =>
      have hlooks : (v.poll s).2 = { v with place := s.updates.position }.look s := by
        simp only [poll] at hdirty ⊢
        rw [hdirty, if_pos rfl]
      rw [hlooks]
      rfl
  | false =>
      have hstays : (v.poll s).2 = { v with place := s.updates.position } := by
        simp only [poll] at hdirty ⊢
        rw [hdirty, if_neg Bool.false_ne_true]
      rw [hstays]
      exact hidle hdirty

/-- A viewer that has just looked is up to date. -/
theorem current_look (hplace : v.place ≤ s.updates.position) : (v.look s).Current s :=
  ⟨hplace, Or.inl rfl⟩

theorem ticket_poll (v : Viewer) (s : Session) : (v.poll s).2.ticket = v.ticket := by
  simp only [poll]
  split <;> rfl

/-- A poll reads the feed to its end. -/
theorem place_poll (v : Viewer) (s : Session) : (v.poll s).2.place = s.updates.position := by
  simp only [poll]
  split <;> rfl

/-- A viewer that has polled is current. -/
theorem Current.poll (h : v.Current s) : (v.poll s).2.Current s where
  place := Nat.le_of_eq (place_poll v s)
  shown := by
    rw [ticket_poll]
    exact Or.inl h.showsPresent.poll

theorem ticket_next (v : Viewer) (s : Session) : (v.next s).2.ticket = v.ticket := by
  simp only [Viewer.next]
  split
  · rfl
  · split <;> rfl

/-- What the viewer passes over on its way to an update of its own does not concern it. -/
theorem Current.next (h : v.Current s) : (v.next s).2.Current s := by
  have hplace := h.place
  simp only [Viewer.next]
  split
  · refine current_look ?_
    change v.place + (s.updates.since v.place).lost ≤ s.updates.position
    simp only [Feed.since]
    omega
  · rename_i hlost
    split
    · rename_i i hfound
      refine current_look ?_
      have hlt : i < (s.updates.since v.place).messages.length :=
        (List.findIdx?_eq_some_iff_getElem.mp hfound).1
      rw [messages_of_lost hlost, List.length_reverse, List.length_take] at hlt
      change v.place + i + 1 ≤ s.updates.position
      omega
    · rename_i hnone
      refine ⟨Nat.le_refl _, Or.inl (h.of_quiet hlost fun u hu hown => ?_)⟩
      have hother := List.findIdx?_eq_none_iff.mp hnone u hu
      simp [hown] at hother

/-! ## What happens meanwhile -/

/-- Whatever is told keeps the viewer in the picture. -/
theorem Current.told (h : v.Current s) (htold : s.Told [] s') : v.Current s' := by
  obtain ⟨news, hsent, hshown⟩ := htold.sent
  have hplace := h.place
  have hposition : s'.updates.position = news.length + s.updates.position := by
    simp [Feed.position, hsent]
  have hwaiting : s'.updates.sent.take (s'.updates.position - v.place) =
      news ++ s.updates.sent.take (s.updates.position - v.place) := by
    have hcount : s'.updates.position - v.place =
        news.length + (s.updates.position - v.place) := by omega
    rw [hsent, hcount, List.take_length_add_append]
  refine ⟨by omega, ?_⟩
  rw [hwaiting]
  rcases hshown v.ticket.key with hsame | hsilent | hnews
  · rw [hsame]
    refine h.shown.imp_right fun ⟨u, hu, hown⟩ => ?_
    exact ⟨u, List.mem_append_right news hu, hown⟩
  · cases hsilent
  · obtain ⟨u, hu, hown⟩ := List.mem_map.mp hnews
    exact Or.inr ⟨u, List.mem_append_left _ hu, hown⟩

/-- With the attendance of one key another, the viewer still watches if it is still there. -/
theorem Watches.seats (h : v.Watches s) {k : Key} {a : Attendance} (hseats : s.Seats s' k a)
    (hstays : k = v.ticket.key → v.ticket.id ∈ a.subscribers) : v.Watches s' := by
  by_cases hk : v.ticket.key = k
  · exact ⟨a, by rw [hseats.attendance, if_pos hk], hstays hk.symm⟩
  · obtain ⟨b, hb, hmem⟩ := h
    exact ⟨b, by rw [hseats.attendance, if_neg hk, hb], hmem⟩

/-- When another subscriber leaves, the viewer stays. -/
theorem Watches.leaves (h : v.Watches s) {t : Ticket} {a : Attendance} (now : Nat)
    (hother : t ≠ v.ticket) (hthere : s.attendance t.key = some a) (hkey : t.key = v.ticket.key) :
    v.ticket.id ∈ (a.leftBy t.id now).subscribers := by
  obtain ⟨b, hb, hmem⟩ := h
  obtain rfl : b = a := Option.some.inj (hb.symm.trans (hkey ▸ hthere))
  have hid : t.id ≠ v.ticket.id := by
    intro hid
    refine hother ?_
    cases t
    simp_all
  exact Std.ExtTreeSet.mem_erase.mpr ⟨by simpa using hid, hmem⟩

/-- What a viewer watches is not idle. -/
theorem Watches.isWatched (h : v.Watches s) {a : Attendance}
    (ha : s.attendance v.ticket.key = some a) : a.isWatched = true := by
  obtain ⟨b, hb, hmem⟩ := h
  obtain rfl : b = a := Option.some.inj (hb.symm.trans ha)
  exact Attendance.isWatched_of_mem hmem

/-- Whoever is dropped is watched by nobody, and so is not the viewer's. -/
theorem Keeping.drops (h : v.Keeping s) {now : Nat} {l : List Key}
    (hover : ∀ k ∈ l, ∃ a, s.attendance k = some a ∧ a.Over now s.cache.keep)
    (hdrops : s.Drops s' l) : v.Keeping s' := by
  obtain ⟨hwatches, hcurrent⟩ := h
  have hstays : v.ticket.key ∉ l := by
    intro hmem
    obtain ⟨a, ha, hunwatched, -⟩ := hover _ hmem
    cases hunwatched.symm.trans (hwatches.isWatched ha)
  have hread : s'.read v.ticket.key = s.read v.ticket.key := by
    rw [hdrops.read, if_neg hstays]
  obtain ⟨b, hb, hthere⟩ := hwatches
  refine ⟨⟨b, ?_, hthere⟩, ?_, ?_⟩
  · unfold Session.attendance
    rw [hread]
    exact hb
  · rw [hdrops.updates]
    exact hcurrent.place
  · unfold Session.displayAt
    rw [hread, hdrops.updates]
    exact hcurrent.shown

/-- An event keeps the viewer in the picture, if it is not a reset and does not end its own
subscription. -/
theorem Keeping.turnover (h : v.Keeping s) {now : Nat} {e : Event} (hreset : e ≠ .reset)
    (hown : e ≠ .unsubscribe v.ticket) (hturn : s.Turnover now e s') : v.Keeping s' := by
  obtain ⟨hwatches, hcurrent⟩ := h
  cases hturn with
  | tells htells =>
      obtain ⟨a, ha, hmem⟩ := hwatches
      exact ⟨⟨a, (htells.attends.attendance _).trans ha, hmem⟩, hcurrent.told htells.told⟩
  | comes hlookup hthere hseats hpolls hchores =>
      refine ⟨hwatches.seats hseats fun hk => ?_, hcurrent.told hseats.told⟩
      obtain ⟨b, hb, hmem⟩ := hwatches
      rw [hthere, hk, hb]
      exact Std.ExtTreeSet.mem_insert.mpr (Or.inr hmem)
  | leaves hthere _ _ hseats | leavesLast hthere _ _ hseats =>
      have hother := fun heq => hown (congrArg Event.unsubscribe heq)
      exact ⟨hwatches.seats hseats (hwatches.leaves now hother hthere), hcurrent.told hseats.told⟩
  | makes hlookup hnone hseats hpolls hchores =>
      refine ⟨hwatches.seats hseats fun hk => ?_, hcurrent.told hseats.told⟩
      obtain ⟨b, hb, -⟩ := hwatches
      rw [hk, hb] at hnone
      cases hnone
  | drops hover hdrops => exact Keeping.drops ⟨hwatches, hcurrent⟩ hover hdrops
  | clears => exact absurd rfl hreset
  | ends => exact ⟨hwatches, hcurrent.place, hcurrent.shown⟩

/-- Whoever begins to view an entry watches it and shows it. -/
theorem keeping_openIn (s : Session) (now : Nat) (endpoint : Endpoint) (args : Json) :
    (openIn s now endpoint args).1.Keeping (openIn s now endpoint args).2 := by
  have hseats := (s.seats_served now endpoint args).withPoll (endpoint.keyOf args)
    (s.startsAt endpoint (s.entered now endpoint args).attendance)
  rw [← Session.subscribe_eq] at hseats
  have hticket : (s.subscribe now endpoint args).1.ticket =
      ⟨s.cache.nextSubscriber, endpoint.keyOf args⟩ := by
    unfold Session.subscribe
    simp only
    split <;> rfl
  obtain ⟨news, hsent, -⟩ := hseats.told.sent
  refine ⟨⟨(s.entered now endpoint args).attendance, ?_, ?_⟩, current_look ?_⟩
  · change (s.subscribe now endpoint args).2.attendance (s.subscribe now endpoint args).1.ticket.key
      = _
    rw [hticket, hseats.attendance, if_pos rfl]
  · change (s.subscribe now endpoint args).1.ticket.id ∈ _
    rw [hticket]
    exact Std.ExtTreeSet.mem_insert.mpr (Or.inl Std.compare_self)
  · change s.updates.position ≤ (s.subscribe now endpoint args).2.updates.position
    simp [Feed.position, hsent]

/-- A viewer that fetches again keeps up. -/
theorem Keeping.refetch (h : v.Keeping s) : (v.refetch s).1.Keeping (v.refetch s).2 := by
  have htells := Session.tells_refetch s v.ticket.key
  obtain ⟨a, ha, hmem⟩ := h.watches
  exact ⟨⟨a, (htells.attends.attendance _).trans ha, hmem⟩,
    current_look (h.current.told htells.told).place⟩

end Viewer

/-! ## A screen with one viewer -/

/-- A situation, and one viewer among all who come and go in it. -/
structure Screen where
  situation : Situation
  viewer : Viewer

namespace Screen

/-- What comes next on a screen: an event of the session, or an action of the viewer. -/
inductive Deed where
  | event (now : Nat) (e : Event)
  | poll
  /-- The viewer waits for the next update of its own. -/
  | next
  | refetch

/-- A viewer is opened. -/
def opened (p : Situation) (now : Nat) (endpoint : Endpoint) (args : Json) : Screen :=
  let (viewer, s) := Viewer.openIn p.session now endpoint args
  ⟨p.become s, viewer⟩

def step (screen : Screen) : Deed → Screen
  | .event now e => { screen with situation := screen.situation.step now e }
  | .poll => { screen with viewer := (screen.viewer.poll screen.situation.session).2 }
  | .next => { screen with viewer := (screen.viewer.next screen.situation.session).2 }
  | .refetch =>
    let (viewer, s) := screen.viewer.refetch screen.situation.session
    ⟨screen.situation.become s, viewer⟩

/-- The screen after these deeds, the latest first. -/
def after (screen : Screen) (deeds : List Deed) : Screen :=
  deeds.foldr (fun deed screen => screen.step deed) screen

/-- A viewer has one ticket all along. -/
theorem ticket_step (screen : Screen) (deed : Deed) :
    (screen.step deed).viewer.ticket = screen.viewer.ticket := by
  cases deed with
  | event now e => rfl
  | poll => exact Viewer.ticket_poll _ _
  | next => exact Viewer.ticket_next _ _
  | refetch => rfl

theorem ticket_after (screen : Screen) (deeds : List Deed) :
    (screen.after deeds).viewer.ticket = screen.viewer.ticket := by
  induction deeds with
  | nil => rfl
  | cons deed deeds ih => exact (ticket_step _ deed).trans ih

/-- Every deed keeps the viewer in the picture, if it does not reset the session or end the
viewer's own subscription. -/
theorem keeping_step {screen : Screen} (h : screen.viewer.Keeping screen.situation.session)
    {deed : Deed} (hreset : ∀ now, deed ≠ .event now .reset)
    (hown : ∀ now, deed ≠ .event now (.unsubscribe screen.viewer.ticket)) :
    (screen.step deed).viewer.Keeping (screen.step deed).situation.session := by
  cases deed with
  | event now e =>
      change screen.viewer.Keeping (screen.situation.step now e).session
      rcases Situation.turnover_step screen.situation now e with hsame | ⟨s, hturn, hsession⟩
      · rw [hsame]
        exact h
      · have hkept := h.turnover (fun he => hreset now (congrArg (Deed.event now) he))
          (fun he => hown now (congrArg (Deed.event now) he)) hturn
        rw [hsession]
        exact ⟨hkept.watches, hkept.current.place, hkept.current.shown⟩
  | poll =>
      have hticket := Viewer.ticket_poll screen.viewer screen.situation.session
      exact ⟨by unfold Viewer.Watches; rw [step, hticket]; exact h.watches, h.current.poll⟩
  | next =>
      have hticket := Viewer.ticket_next screen.viewer screen.situation.session
      exact ⟨by unfold Viewer.Watches; rw [step, hticket]; exact h.watches, h.current.next⟩
  | refetch =>
      have hkept := h.refetch
      exact ⟨hkept.watches, hkept.current.place, hkept.current.shown⟩

/-- **Viewers never show an outdated state.**  A viewer is opened after any history, and then
anything happens but for a reset and for the end of its own subscription: updates are sent, more
than the feed holds perhaps, are polled for, waited for, and passed over.  Whenever it polls it
shows its entry as it is then, and if the poll finds nothing to do it has shown that already. -/
theorem poll_shows_present (setup : Setup) (h : History) (now : Nat) (endpoint : Endpoint)
    (args : Json) (deeds : List Deed) (hreset : ∀ t, .event t .reset ∉ deeds)
    (hown : ∀ t, .event t (.unsubscribe
      (opened (Situation.after setup h) now endpoint args).viewer.ticket) ∉ deeds) :
    let screen := (opened (Situation.after setup h) now endpoint args).after deeds
    screen.viewer.ShowsPresent screen.situation.session := by
  let first := opened (Situation.after setup h) now endpoint args
  have hkept : (first.after deeds).viewer.Keeping (first.after deeds).situation.session := by
    induction deeds with
    | nil =>
        have hopened := Viewer.keeping_openIn (Situation.after setup h).session now endpoint args
        exact ⟨hopened.watches, hopened.current.place, hopened.current.shown⟩
    | cons deed deeds ih =>
        refine keeping_step (ih (fun t hin => hreset t (List.mem_cons_of_mem _ hin))
          fun t hin => hown t (List.mem_cons_of_mem _ hin)) (fun t hdeed => ?_) fun t hdeed => ?_
        · exact hreset t (List.mem_cons.mpr (Or.inl hdeed.symm))
        · rw [ticket_after] at hdeed
          exact hown t (List.mem_cons.mpr (Or.inl hdeed.symm))
  exact hkept.current.showsPresent

/-- The one endpoint of `Situation.lone`. -/
def loneEndpoint : Endpoint :=
  ⟨"n", fun _ => ⟨.get, "/", [], none⟩, fun _ _ => [.ofKind "T"], none, true⟩

/-- A viewer is opened before anything else has happened. -/
def alone : Screen := opened (Situation.start Situation.lone) 0 loneEndpoint .null

/-- The first answer lands and is waited for, and is declared stale; then the grace period would be
over if nobody watched. -/
def watched : List Deed :=
  [.event 500 (.evict Situation.loneKey), .event 300 (.invalidate [.ofKind "T"]), .next,
    .event 10 (.land 0 (.ok .null))]

/-- The entry is fetched again, old data on show, and the viewer knows. -/
theorem poll_shows_present_watched :
    ((alone.after watched).situation.session.displayAt Situation.loneKey = .success ⟨0, .null⟩ ∧
      ((alone.after watched).situation.session.isFetching Situation.loneKey) = true ∧
      ((alone.after watched).viewer.poll (alone.after watched).situation.session).1 = true) ∧
    (alone.after watched).viewer.ShowsPresent (alone.after watched).situation.session := by
  refine ⟨by decide +kernel, ?_⟩
  exact poll_shows_present Situation.lone [] 0 loneEndpoint .null watched (by simp [watched])
    (by simp [watched])

/-- Whatever is done but for a reset, viewers never show an outdated state. -/
def NeverOutdated : Prop :=
  ∀ (setup : Setup) (h : History) (now : Nat) (endpoint : Endpoint) (args : Json)
    (deeds : List Deed), (∀ t, .event t .reset ∉ deeds) →
    ((opened (Situation.after setup h) now endpoint args).after deeds).viewer.ShowsPresent
      ((opened (Situation.after setup h) now endpoint args).after deeds).situation.session

/-- Somebody makes up a ticket with the viewer's number and unsubscribes it, and the entry is dropped
at the end of its grace. -/
def displaced : List Deed :=
  [.event 200 (.evict Situation.loneKey),
    .event 20 (.unsubscribe ⟨1, Situation.loneKey⟩), .poll,
    .event 10 (.land 0 (.ok .null))]

/-- No update tells of the drop, and the viewer goes on to show what there was. -/
theorem poll_misses_drop : ¬ NeverOutdated := by
  intro hnever
  have hfacts : (alone.after displaced).situation.session.displayAt
        (alone.after displaced).viewer.ticket.key = .idle ∧
      ((alone.after displaced).viewer.poll (alone.after displaced).situation.session).2.display =
        .success ⟨0, .null⟩ := by
    decide +kernel
  obtain ⟨hgone, hstays⟩ := hfacts
  have hshows : (alone.after displaced).viewer.ShowsPresent
      (alone.after displaced).situation.session :=
    hnever Situation.lone [] 0 loneEndpoint .null displaced (by simp [displaced])
  exact absurd (hstays.symm.trans (hshows.poll.trans hgone)) (by decide)

end Screen

end QueryCache
