import QueryCache.Proofs.VisibleData
import QueryCache.Timeline.Run
/-!
# Timelines follow histories

A timeline does its jobs at times of its own.  Each of them comes to a few events at the most
(`Reached.work`), and so does whatever is asked of it from outside (`Reached.grant`).  So the
session of a timeline, whenever it is looked at and however its server answers, is the session
after some history (`session_grants`), and what holds after every history holds of it.

The books that a timeline keeps are those of the situation: a fetch whose errand has not been
started is one to be followed up, and a write whose request has been sent is one that waits.
A situation may have more on record than the timeline, and never less.
-/

namespace QueryCache.Timeline

variable {σ : Type}

/-- A timeline is where a situation is. -/
structure Follows (t : Timeline σ) (p : Situation) : Prop where
  session : t.session = p.session
  landed : ∀ (flight : Nat) (f : Fetch),
    t.state.progress[flight]? = some (.landed f) → p.landed[flight]? = some f
  writing : ∀ (task : Nat) (w : Writing), t.state.writing[task]? = some w →
    p.writes[w.write.id]? = some ⟨w.write, w.mutation, w.args⟩
  apart : ∀ (task task' : Nat) (w w' : Writing), t.state.writing[task]? = some w →
    t.state.writing[task']? = some w' → w.write.id = w'.write.id → task = task'

variable {t t' : Timeline σ} {p : Situation}

/-- What has the same session and the same books is in the same place. -/
theorem Follows.of_same (h : t.Follows p) (hsession : t'.session = t.session)
    (hprogress : t'.state.progress = t.state.progress)
    (hwriting : t'.state.writing = t.state.writing) : t'.Follows p where
  session := hsession.trans h.session
  landed := by
    rw [hprogress]
    exact h.landed
  writing := by
    rw [hwriting]
    exact h.writing
  apart := by
    rw [hwriting]
    exact h.apart

/-- A timeline follows when both become the same session. -/
theorem Follows.become (h : t.Follows p) (s : Session) : (t.become s).Follows (p.become s) where
  session := rfl
  landed := h.landed
  writing := h.writing
  apart := h.apart

/-- It follows while a flight gets on, as long as what it says to have landed has. -/
theorem Follows.setProgress (h : t.Follows p) (flight : Nat) {progress : Progress}
    (hlanded : ∀ f, progress = .landed f → p.landed[flight]? = some f) :
    (t.setProgress flight progress).Follows p where
  session := h.session
  landed := by
    intro n f hn
    change (t.state.progress.insert flight progress)[n]? = _ at hn
    rw [Std.ExtTreeMap.getElem?_insert] at hn
    by_cases hflight : flight = n
    · subst hflight
      rw [if_pos Std.compare_self] at hn
      exact hlanded f (Option.some.inj hn)
    · rw [if_neg (by simpa using hflight)] at hn
      exact h.landed n f hn
  writing := h.writing
  apart := h.apart

/-- A fetch that has landed is on both books. -/
theorem Follows.arrive (h : t.Follows p) (flight : Nat) (f : Fetch) :
    (t.setProgress flight (.landed f)).Follows { p with landed := p.landed.insert flight f } where
  session := h.session
  landed := by
    intro n g hn
    change (t.state.progress.insert flight (.landed f))[n]? = _ at hn
    change (p.landed.insert flight f)[n]? = _
    rw [Std.ExtTreeMap.getElem?_insert] at hn ⊢
    split at hn
    · rename_i hflight
      cases hn
      exact if_pos hflight
    · rename_i hflight
      rw [if_neg hflight]
      exact h.landed n g hn
  writing := h.writing
  apart := h.apart

/-- A timeline that is to follow a fetch up at once does not put it on its books. -/
theorem Follows.arriveAirborne (h : t.Follows p) {flight : Nat} {attended : Bool}
    (hairborne : t.state.progress[flight]? = some (.airborne attended)) (f : Fetch) :
    t.Follows { p with landed := p.landed.insert flight f } where
  session := h.session
  landed := by
    intro n g hn
    change (p.landed.insert flight f)[n]? = _
    rw [Std.ExtTreeMap.getElem?_insert]
    by_cases hflight : flight = n
    · subst hflight
      cases hairborne.symm.trans hn
    · rw [if_neg (by simpa using hflight)]
      exact h.landed n g hn
  writing := h.writing
  apart := h.apart

/-- A fetch that has been followed up is off the books. -/
theorem Follows.clearProgress (h : t.Follows p) (flight : Nat) :
    (t.clearProgress flight).Follows { p with landed := p.landed.erase flight } where
  session := h.session
  landed := by
    intro n f hn
    change (t.state.progress.erase flight)[n]? = _ at hn
    change (p.landed.erase flight)[n]? = _
    rw [Std.ExtTreeMap.getElem?_erase] at hn ⊢
    split at hn
    · cases hn
    · rename_i hflight
      rw [if_neg hflight]
      exact h.landed n f hn
  writing := h.writing
  apart := h.apart

/-! ## Writes -/

/-- A write that begins has a number that no other has. -/
theorem Follows.mutate (h : t.Follows p)
    (hearly : ∀ n u, p.writes[n]? = some u → n < p.session.nextWrite) (task : Nat) (name : String)
    (m : Mutation) (args : Json) (edits : List SpeculativeEdit) :
    (t.mutate task name m args edits).Follows (p.step t.now (.write m args edits)) := by
  have hwriting : (t.mutate task name m args edits).state.writing =
      t.state.writing.insert task ⟨name, (t.session.beginWrite edits).1, m, args⟩ := rfl
  have hwrites : (p.step t.now (.write m args edits)).writes =
      p.writes.insert p.session.nextWrite ⟨(p.session.beginWrite edits).1, m, args⟩ := rfl
  have hother : ∀ (task' : Nat) (w : Writing), t.state.writing[task']? = some w →
      w.write.id < p.session.nextWrite := fun task' w hw => hearly _ _ (h.writing task' w hw)
  have hnew : (t.session.beginWrite edits).1.id = p.session.nextWrite := by rw [h.session]; rfl
  refine ⟨?_, h.landed, ?_, ?_⟩
  · change (t.session.beginWrite edits).2.takeErrands.2 = _
    rw [h.session]
    rfl
  · intro task' w hw
    rw [hwriting, Std.ExtTreeMap.getElem?_insert] at hw
    rw [hwrites, Std.ExtTreeMap.getElem?_insert]
    split at hw
    · cases hw
      rw [hnew, if_pos Std.compare_self, h.session]
    · have hlt := hother task' w hw
      have hne : p.session.nextWrite ≠ w.write.id := by omega
      rw [if_neg (by simpa using hne)]
      exact h.writing task' w hw
  · intro task₁ task₂ w₁ w₂ hw₁ hw₂ hid
    rw [hwriting, Std.ExtTreeMap.getElem?_insert] at hw₁ hw₂
    split at hw₁ <;> split at hw₂
    · rename_i h₁ h₂
      exact (Std.compare_eq_iff_eq.mp h₁).symm.trans (Std.compare_eq_iff_eq.mp h₂)
    · cases hw₁
      have hlt := hother task₂ w₂ hw₂
      rw [← hid, hnew] at hlt
      exact absurd hlt (Nat.lt_irrefl _)
    · cases hw₂
      have hlt := hother task₁ w₁ hw₁
      rw [hid, hnew] at hlt
      exact absurd hlt (Nat.lt_irrefl _)
    · exact h.apart task₁ task₂ w₁ w₂ hw₁ hw₂ hid

/-- Among the writes without the one of a task each is where it was. -/
theorem writing_takeWriting {task task' : Nat} {w : Writing}
    (hw : (t.takeWriting task).2.state.writing[task']? = some w) :
    task ≠ task' ∧ t.state.writing[task']? = some w := by
  change (t.state.writing.erase task)[task']? = some w at hw
  rw [Std.ExtTreeMap.getElem?_erase] at hw
  split at hw
  · cases hw
  · rename_i hne
    exact ⟨by simpa using hne, hw⟩

/-- It follows when a write is taken off the list of those that wait. -/
theorem Follows.takeWriting (h : t.Follows p) (task : Nat) :
    (t.takeWriting task).2.Follows p where
  session := h.session
  landed := h.landed
  writing := fun task' w hw => h.writing task' w (writing_takeWriting hw).2
  apart := fun task₁ task₂ w₁ w₂ hw₁ hw₂ =>
    h.apart task₁ task₂ w₁ w₂ (writing_takeWriting hw₁).2 (writing_takeWriting hw₂).2

/-- A write that has an answer is off both books. -/
theorem Follows.settled (h : t.Follows p) {task : Nat} {w : Writing}
    (hw : t.state.writing[task]? = some w) (s : Session) :
    ((t.takeWriting task).2.become s).Follows ((p.become s).settled w.write.id) where
  session := rfl
  landed := h.landed
  writing := by
    intro task' w' hw'
    obtain ⟨hne, hold⟩ := writing_takeWriting hw'
    change (p.writes.erase w.write.id)[w'.write.id]? = _
    have hid : w.write.id ≠ w'.write.id := fun hid => hne (h.apart task task' w w' hw hold hid)
    rw [Std.ExtTreeMap.getElem?_erase, if_neg (by simpa using hid)]
    exact h.writing task' w' hold
  apart := (h.takeWriting task).apart

/-! ## Jobs -/

/-- A timeline that is where some history leads that goes on from the past. -/
def Reached (setup : Setup) (past : History) (t : Timeline σ) : Prop :=
  ∃ since, t.Follows (Situation.after setup (since ++ past))

variable {setup : Setup} {past since : History}

/-- What has come about since may be counted in with the rest. -/
theorem Reached.of_later (since : History) (h : t.Reached setup (since ++ past)) :
    t.Reached setup past := by
  obtain ⟨later, hfollows⟩ := h
  exact ⟨later ++ since, by rwa [List.append_assoc]⟩

/-- The session of a timeline and its two books tell where it is. -/
theorem Reached.of_same (h : t.Reached setup past) (hsession : t'.session = t.session)
    (hprogress : t'.state.progress = t.state.progress)
    (hwriting : t'.state.writing = t.state.writing) : t'.Reached setup past := by
  obtain ⟨since, hfollows⟩ := h
  exact ⟨since, hfollows.of_same hsession hprogress hwriting⟩

/-- Setting an alarm is not an event. -/
theorem Reached.after (h : t.Reached setup past) (delay : Nat) (job : Job) :
    (t.after delay job).Reached setup past :=
  h.of_same rfl rfl rfl

/-- One event more. -/
theorem reached_of_step (now : Nat) (e : Event)
    (hfollows : t.Follows ((Situation.after setup (since ++ past)).step now e)) :
    t.Reached setup past :=
  ⟨(now, e) :: since, hfollows⟩

/-- One event that makes the session into another. -/
theorem reached_of_become {s : Session} (now : Nat) (e : Event)
    (hfollows : t.Follows (Situation.after setup (since ++ past)))
    (hstep : (Situation.after setup (since ++ past)).step now e =
      (Situation.after setup (since ++ past)).become s) :
    (t.become s).Reached setup past := by
  have hbecome := hfollows.become s
  rw [← hstep] at hbecome
  exact reached_of_step now e hbecome

/-- A flight in the air is nothing that a history knows of. -/
theorem Reached.setProgress (h : t.Reached setup past) (flight : Nat) (attended : Bool) :
    (t.setProgress flight (.airborne attended)).Reached setup past := by
  obtain ⟨since, hfollows⟩ := h
  exact ⟨since, hfollows.setProgress flight fun f heq => by cases heq⟩

/-- An attempt is nothing that a history knows of. -/
theorem Reached.attempt (h : t.Reached setup past) (flight number : Nat) :
    (t.attempt flight number).Reached setup past := by
  unfold Timeline.attempt
  cases t.session.fetches[flight]? with
  | none => exact h
  | some f => exact h.of_same rfl rfl rfl

/-- A take-off is nothing that a history knows of. -/
theorem Reached.takeOff (h : t.Reached setup past) (flight : Nat) (attended : Bool) :
    (t.takeOff flight attended).Reached setup past := by
  unfold Timeline.takeOff
  split
  · exact h
  · exact (h.setProgress flight attended).attempt flight 0

/-- The errand of a fetch that has landed. -/
theorem Follows.followUp (h : t.Follows p) {flight : Nat} {f : Fetch}
    (hlanded : p.landed[flight]? = some f) :
    ((t.become (t.session.followUp f)).clearProgress flight).Follows
      (p.step t.now (.followUp flight)) := by
  have hstep : p.step t.now (.followUp flight) =
      { p.become (t.session.followUp f) with landed := p.landed.erase flight } := by
    rw [h.session]
    simp only [Situation.step, hlanded]
  rw [hstep]
  exact (h.become (t.session.followUp f)).clearProgress flight

/-- Carrying a fetch out is its follow-up, or comes to nothing that a history knows of. -/
theorem Reached.carry (h : t.Reached setup past) (flight : Nat) : (t.carry flight).Reached setup past := by
  unfold Timeline.carry
  cases hprogress : t.state.progress[flight]? with
  | none => exact h.takeOff flight true
  | some progress =>
      cases progress with
      | airborne attended => exact h.setProgress flight true
      | landed f =>
          obtain ⟨since, hfollows⟩ := h
          exact reached_of_step _ _ (hfollows.followUp (hfollows.landed flight f hprogress))

/-- Tasks that end are put on one list, and that is all. -/
theorem finishes_eq (waiters : List Waiting) (told : Outcome) (t : Timeline σ) :
    waiters.foldl (fun t w => t.finish w.name told) t = t.alter fun scene =>
      { scene with
        finished := (waiters.map fun w => ⟨t.now, w.name, told⟩).reverse ++ scene.finished } := by
  induction waiters generalizing t with
  | nil => rfl
  | cons w rest ih =>
      rw [List.foldl_cons, ih]
      simp only [List.map_cons, List.reverse_cons, List.append_assoc]
      rfl

/-- Tasks that end are nothing a history knows of. -/
theorem Follows.finishes (h : t.Follows p) (waiters : List Waiting) (told : Outcome) :
    (waiters.foldl (fun t w => t.finish w.name told) t).Follows p := by
  rw [finishes_eq]
  exact h.of_same rfl rfl rfl

/-- When all who waited have been told, a fetch that has landed is put on the books, or, if its
errand has been started, is followed up at once. -/
theorem land_cases (t : Timeline σ) (flight : Nat) (f : Fetch) (brought : Except Failure Json) :
    ∃ told : Timeline σ,
      (∀ p, (t.become (t.session.land t.now flight f brought).2).Follows p → told.Follows p) ∧
      (t.land flight f brought = told.setProgress flight (.landed f) ∨
        (told.state.progress[flight]? = some (.airborne true) ∧
          t.land flight f brought =
            (told.become (told.session.followUp f)).clearProgress flight)) := by
  unfold Timeline.land
  simp only
  split
  · rename_i hairborne
    refine ⟨_, ?_, Or.inr ⟨hairborne, rfl⟩⟩
    exact fun p h => (h.finishes _ _).of_same rfl rfl rfl
  · refine ⟨_, ?_, Or.inl rfl⟩
    exact fun p h => (h.finishes _ _).of_same rfl rfl rfl

/-- A landing is one event, and where it is followed up at once it is two. -/
theorem Follows.land (h : t.Follows (Situation.after setup past)) {flight : Nat} {f : Fetch}
    (hair : t.session.fetches[flight]? = some f) (brought : Except Failure Json) :
    (t.land flight f brought).Reached setup ((t.now, .land flight brought) :: past) := by
  let p := Situation.after setup past
  let s := (t.session.land t.now flight f brought).2
  have hstep : p.step t.now (.land flight brought) =
      { p.become s with landed := p.landed.insert flight f } := by
    have hair' : p.session.fetches[flight]? = some f := h.session ▸ hair
    simp only [Situation.step, hair', s, h.session, p]
  obtain ⟨told, htold, hrecorded | ⟨hairborne, hfollowed⟩⟩ := land_cases t flight f brought
  · rw [hrecorded]
    have harrived : (told.setProgress flight (.landed f)).Follows
        (p.step t.now (.land flight brought)) := by
      rw [hstep]
      exact (htold _ (h.become s)).arrive flight f
    exact ⟨[], harrived⟩
  · rw [hfollowed]
    have harrived : told.Follows (p.step t.now (.land flight brought)) := by
      rw [hstep]
      exact (htold _ (h.become s)).arriveAirborne hairborne f
    refine ⟨[(told.now, .followUp flight)], harrived.followUp ?_⟩
    rw [hstep]
    exact Std.ExtTreeMap.getElem?_insert_self

/-- Whether it is followed up at once or later, a landing is a few events. -/
theorem Reached.land (h : t.Reached setup past) {flight : Nat} {f : Fetch}
    (hair : t.session.fetches[flight]? = some f) (brought : Except Failure Json) :
    (t.land flight f brought).Reached setup past := by
  obtain ⟨since, hfollows⟩ := h
  exact ((hfollows.land hair brought).of_later [_]).of_later since

/-- An answer is a landing, unless the attempt is repeated. -/
theorem Reached.answered (h : t.Reached setup past) (flight number : Nat)
    (brought : Except Failure Json) : (t.answered flight number brought).Reached setup past := by
  unfold Timeline.answered
  cases hair : t.session.fetches[flight]? with
  | none => exact h
  | some f =>
      simp only
      split
      · exact h.after _ _
      · exact h.land hair brought

/-- A query asks the session, which is an event. -/
theorem Reached.asked (h : t.Reached setup past) {name : String} {endpoint : Endpoint}
    (hlookup : t.session.lookup name = .ok endpoint) (args : Json) :
    (t.become (t.session.query t.now endpoint args).2).Reached setup past := by
  obtain ⟨since, hfollows⟩ := h
  refine reached_of_become t.now (.query name args) hfollows ?_
  rw [hfollows.session] at hlookup ⊢
  simp only [Situation.step, hlookup]

/-- A query is an event, and may have a flight take off. -/
theorem Reached.query (h : t.Reached setup past) (task : Nat) (name endpoint : String) (args : Json) :
    (t.query task name endpoint args).Reached setup past := by
  unfold Timeline.query
  cases hlookup : t.session.lookup endpoint with
  | error why => exact h.of_same rfl rfl rfl
  | ok found =>
      simp only
      have hasked := h.asked hlookup args
      cases hquery : t.session.query t.now found args with
      | mk answer session =>
          rw [hquery] at hasked
          cases answer with
          | ready data => exact hasked.of_same rfl rfl rfl
          | flying flight =>
              refine Reached.takeOff ?_ flight false
              exact hasked.of_same rfl rfl rfl

/-- A write that begins is an event. -/
theorem Reached.mutate (h : t.Reached setup past) (task : Nat) (name : String) (m : Mutation)
    (args : Json) (edits : List SpeculativeEdit) :
    (t.mutate task name m args edits).Reached setup past := by
  obtain ⟨since, hfollows⟩ := h
  have hids := (Situation.layered_after setup (since ++ past)).ids
  exact reached_of_step _ _
    (hfollows.mutate (fun n u hu => (hids n u hu).2) task name m args edits)

/-- The answer to a write confirms it or gives it up. -/
theorem Reached.written (h : t.Reached setup past) (task : Nat) (brought : Except Failure Json) :
    (t.written task brought).Reached setup past := by
  obtain ⟨since, hfollows⟩ := h
  unfold Timeline.written
  cases hw : t.state.writing[task]? with
  | none =>
      simp only [Timeline.takeWriting, hw]
      exact ⟨since, hfollows.takeWriting task⟩
  | some w =>
      have hwaits := hfollows.writing task w hw
      have hsettled := hfollows.settled hw
      have htake : t.takeWriting task = (some w, (t.takeWriting task).2) := by
        rw [← hw]
        rfl
      rw [htake]
      cases brought with
      | ok response =>
          have hstep : (Situation.after setup (since ++ past)).step t.now (.confirm w.write.id response) =
              ((Situation.after setup (since ++ past)).become
                (t.session.confirm w.write w.mutation w.args response)).settled w.write.id := by
            rw [hfollows.session]
            simp only [Situation.step, hwaits]
          have hconfirmed := hsettled (t.session.confirm w.write w.mutation w.args response)
          rw [← hstep] at hconfirmed
          exact (reached_of_step _ _ hconfirmed).of_same rfl rfl rfl
      | error failure =>
          have hstep : (Situation.after setup (since ++ past)).step t.now (.giveUp w.write.id failure) =
              ((Situation.after setup (since ++ past)).become
                (t.session.giveUp w.write failure)).settled w.write.id := by
            rw [hfollows.session]
            simp only [Situation.step, hwaits]
          have hgivenUp := hsettled (t.session.giveUp w.write failure)
          rw [← hstep] at hgivenUp
          exact (reached_of_step _ _ hgivenUp).of_same rfl rfl rfl

/-- A write that is cancelled is withdrawn. -/
theorem Reached.withdraw (h : t.Reached setup past) (task : Nat) :
    (t.withdraw task).Reached setup past := by
  obtain ⟨since, hfollows⟩ := h
  unfold Timeline.withdraw
  cases hw : t.state.writing[task]? with
  | none =>
      simp only [Timeline.takeWriting, hw]
      exact ⟨since, hfollows.takeWriting task⟩
  | some w =>
      have hwaits := hfollows.writing task w hw
      have hsettled := hfollows.settled hw
      simp only [Timeline.takeWriting, hw] at hsettled ⊢
      have hstep : (Situation.after setup (since ++ past)).step t.now (.cancel w.write.id) =
          ((Situation.after setup (since ++ past)).become
            (t.session.withdraw w.write)).settled w.write.id := by
        rw [hfollows.session]
        simp only [Situation.step, hwaits]
      exact reached_of_step _ _ (hstep ▸ hsettled _)

/-- A tick fetches again, or finds its poll gone. -/
theorem Reached.tick (h : t.Reached setup past) (k : Key) (serial interval due : Nat) :
    (t.tick k serial interval due).Reached setup past := by
  obtain ⟨since, hfollows⟩ := h
  unfold Timeline.tick
  by_cases hcurrent : t.session.polls.isCurrent k serial = true
  · rw [if_pos hcurrent]
    cases htick : t.session.tick k with
    | mk goesOn s =>
        cases goesOn with
        | true =>
            have hstep : (Situation.after setup (since ++ past)).step t.now (.tick k serial) =
                (Situation.after setup (since ++ past)).become s := by
              rw [hfollows.session] at hcurrent htick
              simp only [Situation.step, hcurrent, htick, if_true]
            exact (reached_of_become _ _ hfollows hstep).of_same rfl rfl rfl
        | false =>
            have hstep : (Situation.after setup (since ++ past)).step t.now (.tick k serial) =
                (Situation.after setup (since ++ past)).become
                  { s with polls := s.polls.finish k serial } := by
              rw [hfollows.session] at hcurrent htick
              simp only [Situation.step, hcurrent, htick, if_true]
            exact reached_of_become _ _ hfollows hstep
  · rw [if_neg hcurrent]
    exact ⟨since, hfollows⟩

/-- What comes to one event of the session that is always possible. -/
theorem Reached.become (h : t.Reached setup past) (now : Nat) (e : Event) (change : Session → Session)
    (hstep : ∀ p : Situation, p.step now e = p.become (change p.session)) :
    (t.become (change t.session)).Reached setup past := by
  obtain ⟨since, hfollows⟩ := h
  refine reached_of_become now e hfollows ?_
  rw [hstep, hfollows.session]

/-- **Every job is a few events.** -/
theorem Reached.work (h : t.Reached setup past) (job : Job) :
    (Timeline.work job t).Reached setup past := by
  cases job with
  | journal => exact h.of_same rfl rfl rfl
  | query task name endpoint args => exact h.query task name endpoint args
  | mutate task name m args edits => exact h.mutate task name m args edits
  | withdraw task => exact h.withdraw task
  | carry flight => exact h.carry flight
  | attempt flight number => exact h.attempt flight number
  | answered flight number brought => exact h.answered flight number brought
  | written task brought => exact h.written task brought
  | poll k serial interval => exact h.of_same rfl rfl rfl
  | tick k serial interval due => exact h.tick k serial interval due
  | grace k => exact h.of_same rfl rfl rfl
  | evict k => exact h.become t.now (.evict k) (Session.evict · t.now k) fun _ => rfl

/-- Time that passes is a row of jobs. -/
theorem Reached.elapse (h : t.Reached setup past) (limit steps : Nat) :
    Reached setup past (Timed.elapse Timeline.work limit steps t) := by
  induction steps generalizing t with
  | zero => exact h
  | succ steps ih =>
      unfold Timed.elapse
      cases t.agenda.pop? with
      | some next =>
          have hpopped : Reached setup past { t with agenda := next.2 } := h.of_same rfl rfl rfl
          exact ih (hpopped.work next.1)
      | none =>
          cases t.agenda.wake? limit with
          | some agenda => exact ih (h.of_same rfl rfl rfl)
          | none => exact h.of_same rfl rfl rfl

/-- Settling what is ready is a row of jobs. -/
theorem Reached.settle (h : t.Reached setup past) : t.settle.Reached setup past :=
  h.elapse (t.now + Timer.span 0) Timed.stepLimit

/-- Waiting for a change is a row of jobs and pauses. -/
theorem Reached.awaitChange (h : t.Reached setup past) (deadline steps : Nat) (v : Viewer) :
    (awaitChange deadline steps v t).2.2.Reached setup past := by
  induction steps generalizing v t with
  | zero => exact h
  | succ steps ih =>
      unfold Timeline.awaitChange
      split
      · exact h
      · simp only
        split
        · split
          · exact ih (h.elapse _ Timed.stepLimit) _
          · exact h.of_same rfl rfl rfl
        · exact h.of_same rfl rfl rfl

/-- Waiting for an outcome is a row of jobs and pauses. -/
theorem Reached.awaitOutcome (h : t.Reached setup past) (alarms : Nat) :
    (t.awaitOutcome alarms).2.Reached setup past := by
  induction alarms generalizing t with
  | zero => exact h
  | succ alarms ih =>
      unfold Timeline.awaitOutcome
      simp only
      split
      · exact h.settle
      · exact ih (h.settle.elapse _ Timed.stepLimit)
      · exact h.settle

/-! ## What is asked of a timeline -/

inductive Demand where
  | subscribe (name : String) (args : Json)
  | unsubscribe (ticket : Ticket)
  | refetch (k : Key)
  | invalidate (tags : List Tag)
  | collect
  | reset
  | standIn
  | startQuery (name endpoint : String) (args : Json)
  | startWrite (name : String) (m : Mutation) (args : Json) (edits : List SpeculativeEdit)
  | cancel (name : String)
  | pass (duration : Nat)
  /-- A viewer waits for a change of its entry. -/
  | awaitChange (patience : Nat) (v : Viewer)
  /-- The outcome of a task is waited for. -/
  | awaitOutcome (alarms : Nat)

def grant (t : Timeline σ) : Demand → Timeline σ
  | .subscribe name args => match t.session.lookup name with
    | .ok endpoint => t.become (t.session.subscribe t.now endpoint args).2
    | .error _ => t
  | .unsubscribe ticket => t.become (t.session.unsubscribe t.now ticket)
  | .refetch k => t.become (t.session.refetch k)
  | .invalidate tags => t.become (t.session.invalidate tags).2
  | .collect => t.become (t.session.collect t.now).2
  | .reset => t.become t.session.reset
  | .standIn => t.become t.session.standIn.2
  | .startQuery name endpoint args => t.startQuery name endpoint args
  | .startWrite name m args edits => t.startWrite name m args edits
  | .cancel name => (t.cancel name).2
  | .pass duration => t.pass duration
  | .awaitChange patience v => (t.changeWithin patience v).2.2
  | .awaitOutcome alarms => (t.awaitOutcome alarms).2

/-- **Every demand is a few events, and as many as there are jobs to be done meanwhile.** -/
theorem Reached.grant (h : t.Reached setup past) (demand : Demand) :
    (t.grant demand).Reached setup past := by
  cases demand with
  | subscribe name args =>
      simp only [Timeline.grant]
      cases hlookup : t.session.lookup name with
      | error why => exact h
      | ok endpoint =>
          obtain ⟨since, hfollows⟩ := h
          refine reached_of_become t.now (.subscribe name args) hfollows ?_
          rw [hfollows.session] at hlookup ⊢
          simp only [Situation.step, hlookup]
  | unsubscribe ticket =>
      exact h.become t.now (.unsubscribe ticket) (Session.unsubscribe · t.now ticket) fun _ => rfl
  | refetch k => exact h.become t.now (.refetch k) (Session.refetch · k) fun _ => rfl
  | invalidate tags =>
      exact h.become t.now (.invalidate tags) (fun s => (s.invalidate tags).2) fun _ => rfl
  | collect => exact h.become t.now .collect (fun s => (s.collect t.now).2) fun _ => rfl
  | reset => exact h.become t.now .reset Session.reset fun _ => rfl
  | standIn => exact h.become t.now .standIn (fun s => s.standIn.2) fun _ => rfl
  | startQuery name endpoint args => exact h.of_same rfl rfl rfl
  | startWrite name m args edits => exact h.of_same rfl rfl rfl
  | cancel name =>
      simp only [Timeline.grant, Timeline.cancel]
      split
      · exact h
      · exact h.of_same rfl rfl rfl
  | pass duration => exact h.elapse _ _
  | awaitChange patience v => exact h.awaitChange _ _ v
  | awaitOutcome alarms => exact h.awaitOutcome alarms

/-- The start is where the empty history leads. -/
theorem reached_start (setup : Setup) (answer : Request → σ → Reply × σ) (server : σ) :
    (start setup answer server).Reached setup [] := by
  refine ⟨[], rfl, ?_, ?_, ?_⟩
  · intro flight f hf
    simp [start] at hf
  · intro task w hw
    simp [start] at hw
  · intro task task' w w' hw
    simp [start] at hw

/-- **Timelines follow histories.**  Whatever is asked of a timeline, and however its server
answers, its session is the session after some history. -/
theorem session_grants (setup : Setup) (answer : Request → σ → Reply × σ) (server : σ)
    (demands : List Demand) :
    ∃ h, (demands.foldl grant (start setup answer server)).session =
      (Situation.after setup h).session := by
  have hreached : ∀ (demands : List Demand) (t : Timeline σ), t.Reached setup [] →
      (demands.foldl grant t).Reached setup [] := by
    intro demands
    induction demands with
    | nil => exact fun t h => h
    | cons demand rest ih => exact fun t h => ih _ (h.grant demand)
  obtain ⟨since, hfollows⟩ := hreached demands _ (reached_start setup answer server)
  exact ⟨since ++ [], hfollows.session⟩

end QueryCache.Timeline
