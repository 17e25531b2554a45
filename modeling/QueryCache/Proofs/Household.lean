import QueryCache.Proofs.Agenda
import QueryCache.Proofs.Moves
import QueryCache.Proofs.Turnover
/-!
# The chores of a session

Besides carrying fetches and writes, a timeline has chores: to begin a grace period and to drop an
entry at its end, to start a poll and to tick.  `Household` leaves everything else about a timeline
out of sight, and `Household.Step` lists all that can happen then.  Chores that nobody will need any
more are never taken off; they are done at their time like the others, and find nothing to do.

`Orderly.move` shows that each move of a timeline is one step of its household.  So what is to hold of
grace periods or of polls at all times need only be kept by the steps.
-/

namespace QueryCache

/-- Whether a job is something else than to carry a fetch or a write. -/
def Job.isChore : Job → Bool
  | .poll _ _ _ | .tick _ _ _ _ | .grace _ | .evict _ => true
  | _ => false

/-- What there is to see of a timeline when fetches and writes are left aside. -/
structure Household where
  now : Nat
  session : Session
  chores : Multiset (Alarm Job)

namespace Household

/-- What is asked for is to be done now. -/
def asked (now : Nat) (errands : List Errand) : Multiset (Alarm Job) :=
  ↑(errands.map fun e => Alarm.mk now (Timeline.jobOf e))

/-- What a step is known by. -/
inductive Mark where
  | plain
  /-- A poll ticks. -/
  | tick (k : Key)
  | reset
deriving DecidableEq

inductive Step : Mark → Household → Household → Prop
  | turns {now : Nat} {s s' : Session} {c : Multiset (Alarm Job)} {e : Event} (he : e ≠ .reset)
      (hnone : s.chores = []) (hturn : s.Turnover now e s') :
      Step .plain ⟨now, s, c⟩ ⟨now, s'.takeErrands.2, c + asked now s'.chores⟩
  | resets {now : Nat} {s : Session} {c : Multiset (Alarm Job)} :
      Step .reset ⟨now, s, c⟩ ⟨now, s.reset.takeErrands.2, c⟩
  /-- Time passes, and no chore is left behind. -/
  | waits {now now' : Nat} {s : Session} {c : Multiset (Alarm Job)} (hlater : now ≤ now')
      (hdue : ∀ x ∈ c, now' ≤ x.due) : Step .plain ⟨now, s, c⟩ ⟨now', s, c⟩
  | begins {now : Nat} {s : Session} {c : Multiset (Alarm Job)} (k : Key) :
      Step .plain ⟨now, s, ⟨now, .grace k⟩ ::ₘ c⟩
        ⟨now, s, ⟨now + Timer.span s.setup.options.keep, .evict k⟩ ::ₘ c⟩
  | evicts {now : Nat} {s : Session} {c : Multiset (Alarm Job)} (k : Key)
      (hnone : s.chores = []) :
      Step .plain ⟨now, s, ⟨now, .evict k⟩ ::ₘ c⟩ ⟨now, (s.evict now k).takeErrands.2, c⟩
  | setsOut {now : Nat} {s : Session} {c : Multiset (Alarm Job)} (k : Key) (serial interval : Nat) :
      Step .plain ⟨now, s, ⟨now, .poll k serial interval⟩ ::ₘ c⟩
        ⟨now, s, ⟨now + interval, .tick k serial interval (now + interval)⟩ ::ₘ c⟩
  | ticks {now : Nat} {s s' : Session} {c : Multiset (Alarm Job)} {k : Key}
      {serial interval due : Nat} (hcurrent : s.polls.isCurrent k serial = true)
      (hwatched : s.isWatched k = true) (htells : s.Tells [] s') :
      Step (.tick k) ⟨now, s, ⟨now, .tick k serial interval due⟩ ::ₘ c⟩
        ⟨now, s', ⟨max now (Polls.nextDue interval due now),
          .tick k serial interval (Polls.nextDue interval due now)⟩ ::ₘ c⟩
  /-- A poll finds nobody. -/
  | ceases {now : Nat} {s : Session} {c : Multiset (Alarm Job)} {k : Key}
      {serial interval due : Nat} (hnone : s.chores = [])
      (hcurrent : s.polls.isCurrent k serial = true)
      (hunwatched : s.isWatched k = false) :
      Step .plain ⟨now, s, ⟨now, .tick k serial interval due⟩ ::ₘ c⟩
        ⟨now, { s with polls := s.polls.finish k serial }.takeErrands.2, c⟩
  /-- A poll has been struck off meanwhile. -/
  | lapses {now : Nat} {s : Session} {c : Multiset (Alarm Job)} {k : Key}
      {serial interval due : Nat} (hover : s.polls.isCurrent k serial = false) :
      Step .plain ⟨now, s, ⟨now, .tick k serial interval due⟩ ::ₘ c⟩ ⟨now, s, c⟩

variable {h h' : Household} {m : Mark}

/-- Every entry has one of the fates of entries, unless there is a reset. -/
theorem Step.fate (hstep : Step m h h') (hm : m ≠ .reset) (k : Key) :
    Attendance.Fate h.now h.session.cache.keep (h.session.attendance k)
      (h'.session.attendance k) := by
  cases hstep with
  | turns he _ hturn => exact hturn.fate he k
  | resets => exact absurd rfl hm
  | evicts k' => exact (Session.turnover_evict _ _ k' .collect).fate (by simp) k
  | ticks _ _ htells =>
      rw [htells.attends.attendance]
      exact .stays _
  | waits | begins | setsOut | ceases | lapses => exact .stays _

/-- Nobody is left after a reset. -/
theorem Step.cleared (hstep : Step .reset h h') (k : Key) : h'.session.attendance k = none := by
  cases hstep
  exact Session.attendance_reset _ k

/-- No step changes the setup or the grace period. -/
theorem Step.setup (hstep : Step m h h') :
    h'.session.setup = h.session.setup ∧ h'.session.cache.keep = h.session.cache.keep := by
  cases hstep with
  | turns _ _ hturn => exact hturn.setup
  | evicts k => exact (Session.turnover_evict _ _ k .collect).setup
  | ticks _ _ htells => exact ⟨htells.attends.setup, htells.attends.keep⟩
  | resets | waits | begins | setsOut | ceases | lapses => exact ⟨rfl, rfl⟩

/-- Time goes on. -/
theorem Step.later (hstep : Step m h h') : h.now ≤ h'.now := by
  cases hstep with
  | waits hlater => exact hlater
  | _ => exact Nat.le_refl _

end Household

namespace Timeline

variable {σ : Type}

def chores (t : Timeline σ) : Multiset (Alarm Job) :=
  t.agenda.pending.filter fun x => x.job.isChore = true

def household (t : Timeline σ) : Household := ⟨t.now, t.session, t.chores⟩

/-- The alarms are in order, and all that has been asked for is on the agenda. -/
structure Orderly (t : Timeline σ) : Prop where
  prompt : t.agenda.Prompt
  settled : t.session.errands = []

/-- Nothing is to be seen of what happens. -/
structure Rests (t t' : Timeline σ) : Prop where
  orderly : t'.Orderly
  household : t'.household = t.household

/-- Nobody comes or goes, and the chores are the same. -/
structure Stirs (t t' : Timeline σ) : Prop where
  orderly : t'.Orderly
  now : t'.now = t.now
  tells : t.session.Tells [] t'.session
  chores : t'.chores = t.chores

/-- One step of the household is done. -/
structure Steps (m : Household.Mark) (t t' : Timeline σ) : Prop where
  orderly : t'.Orderly
  step : Household.Step m t.household t'.household

variable {t t' t'' : Timeline σ}

/-! ## Agendas -/

/-- An errand is a chore if its job is. -/
theorem isChore_jobOf (e : Errand) : (jobOf e).isChore = e.isChore := by cases e <;> rfl

/-- The chores among what is asked for. -/
theorem filter_asked (now : Nat) (errands : List Errand) :
    ((Household.asked now errands).filter fun x => x.job.isChore = true) =
      Household.asked now (errands.filter Errand.isChore) := by
  unfold Household.asked
  rw [Multiset.filter_coe, List.filter_map]
  simp only [Function.comp_def, isChore_jobOf, Bool.decide_eq_true]

/-- All errands are put on the agenda. -/
theorem pending_errands (errands : List Errand) (a : Agenda Job) :
    let taken := errands.foldl (fun a e => a.push (jobOf e)) a
    (a.Prompt → taken.Prompt) ∧ taken.now = a.now ∧
      taken.pending = a.pending + Household.asked a.now errands := by
  induction errands generalizing a with
  | nil => exact ⟨id, rfl, (Multiset.add_zero _).symm⟩
  | cons e errands ih =>
      obtain ⟨hprompt, hnow, hpending⟩ := ih (a.push (jobOf e))
      refine ⟨fun h => hprompt (h.push _), hnow, ?_⟩
      rw [List.foldl_cons, hpending, Agenda.pending_push, Agenda.now_push, Multiset.cons_add,
        ← Multiset.add_cons]
      rfl

/-- The session is in its next state, and what that asks for is on the agenda.  The listener may have
been woken. -/
theorem agenda_become (t : Timeline σ) (s : Session) :
    (t.agenda.Prompt → (t.become s).agenda.Prompt) ∧ (t.become s).now = t.now ∧
      ∃ woken : Multiset (Alarm Job), (∀ x ∈ woken, x.job = .journal) ∧
        (t.become s).agenda.pending =
          woken + t.agenda.pending + Household.asked t.now s.errands := by
  let news := !t.state.journalDue && t.state.journalPlace < s.updates.position
  let told := if news then t.agenda.push .journal else t.agenda
  have htold : (t.agenda.Prompt → told.Prompt) ∧ told.now = t.now ∧
      ∃ woken : Multiset (Alarm Job), (∀ x ∈ woken, x.job = .journal) ∧
        told.pending = woken + t.agenda.pending := by
    cases hnews : news with
    | true =>
        have hpush : told = t.agenda.push .journal := if_pos hnews
        rw [hpush]
        refine ⟨fun h => h.push _, rfl, {⟨t.now, .journal⟩}, fun x hx => ?_,
          Agenda.pending_push _ _⟩
        rw [Multiset.mem_singleton.mp hx]
    | false =>
        have hsame : told = t.agenda := if_neg (by simp [hnews])
        rw [hsame]
        exact ⟨id, rfl, 0, nofun, (Multiset.zero_add _).symm⟩
  obtain ⟨hprompt, hnow, woken, hwoken, hpending⟩ := htold
  obtain ⟨htaken, hstill, hasked⟩ := pending_errands s.errands told
  refine ⟨fun h => htaken (hprompt h), hstill.trans hnow, woken, hwoken, ?_⟩
  rw [hpending, hnow] at hasked
  exact hasked

/-- The session is in its next state, and the chores it asks for have joined the others. -/
theorem Orderly.become (h : t.Orderly) (s : Session) :
    (t.become s).Orderly ∧ (t.become s).household =
      ⟨t.now, s.takeErrands.2, t.chores + Household.asked t.now s.chores⟩ := by
  obtain ⟨hprompt, hnow, woken, hwoken, hpending⟩ := t.agenda_become s
  refine ⟨⟨hprompt h.prompt, rfl⟩, ?_⟩
  have hjournal : (woken.filter fun x => x.job.isChore = true) = 0 :=
    Multiset.filter_eq_nil.mpr fun x hx => by simp [hwoken x hx, Job.isChore]
  have hchores : (t.become s).chores = t.chores + Household.asked t.now s.chores := by
    unfold chores
    rw [hpending, Multiset.filter_add, Multiset.filter_add, hjournal, Multiset.zero_add,
      filter_asked]
    rfl
  unfold household
  rw [hnow, hchores]
  rfl

/-! ## Moves that nobody notices -/

theorem Rests.refl (h : t.Orderly) : t.Rests t := ⟨h, rfl⟩

/-- What a timeline holds besides its agenda and its session is no concern of the household. -/
theorem Rests.of_same (h : t.Orderly) (hagenda : t'.agenda = t.agenda)
    (hsession : t'.session = t.session) : t.Rests t' := by
  refine ⟨⟨by rw [hagenda]; exact h.prompt, by rw [hsession]; exact h.settled⟩, ?_⟩
  unfold Timeline.household Timeline.chores Timed.now
  rw [hagenda, hsession]

/-- Nothing is to be seen of two things if nothing is of either. -/
theorem Rests.trans (h : t.Rests t') (h' : t'.Rests t'') : t.Rests t'' :=
  ⟨h'.orderly, h'.household.trans h.household⟩

/-- Where nothing is to be seen, nobody comes or goes. -/
theorem Rests.stirs (h : t.Rests t') : t.Stirs t' where
  orderly := h.orderly
  now := congrArg Household.now h.household
  tells := by
    have hsession : t'.session = t.session := congrArg Household.session h.household
    rw [hsession]
    exact .refl t.session
  chores := congrArg Household.chores h.household

/-- Nobody comes or goes in two things if nobody does in either. -/
theorem Stirs.trans (h : t.Stirs t') (h' : t'.Stirs t'') : t.Stirs t'' where
  orderly := h'.orderly
  now := h'.now.trans h.now
  tells := h.tells.chain h'.tells
  chores := h'.chores.trans h.chores

theorem Stirs.of_rests (h : t.Stirs t') (h' : t'.Rests t'') : t.Stirs t'' := h.trans h'.stirs

/-- A session of which no more is to be seen than before. -/
theorem Orderly.stirs (h : t.Orderly) {s : Session} (htells : t.session.Tells [] s) :
    t.Stirs (t.become s) := by
  obtain ⟨horderly, hhousehold⟩ := h.become s
  have hchores : s.chores = [] := by
    rw [htells.attends.chores]
    unfold Session.chores
    rw [h.settled]
    rfl
  have htaken : s.Tells [] s.takeErrands.2 := by
    refine ⟨⟨rfl, rfl, fun _ => rfl, rfl, ?_⟩, .of_same rfl fun _ => rfl⟩
    exact hchores.symm
  refine ⟨horderly, congrArg Household.now hhousehold, ?_, ?_⟩
  · have hsession : (t.become s).session = s.takeErrands.2 := rfl
    rw [hsession]
    exact htells.chain htaken
  · have hsame : (t.become s).chores = t.chores + Household.asked t.now s.chores :=
      congrArg Household.chores hhousehold
    rw [hsame, hchores]
    exact Multiset.add_zero _

/-- A job that is no chore is put on the agenda. -/
theorem Orderly.schedule (h : t.Orderly) (due : Nat) {job : Job} (hjob : job.isChore = false) :
    t.Rests (t.schedule due job) := by
  refine ⟨⟨h.prompt.schedule due job, h.settled⟩, ?_⟩
  have hchores : (t.schedule due job).chores = t.chores := by
    unfold chores Timeline.schedule
    rw [Agenda.filter_schedule Job.isChore, hjob]
    exact Multiset.zero_add _
  unfold household
  rw [hchores]
  exact congrArg (Household.mk · t.session t.chores) (t.agenda.now_schedule due job)

/-- A job that is no chore is made ready unseen. -/
theorem Orderly.push (h : t.Orderly) (job : Job) (hjob : job.isChore = false) :
    t.Rests { t with agenda := t.agenda.push job } := by
  refine ⟨⟨h.prompt.push job, h.settled⟩, ?_⟩
  have hchores : ((t.agenda.push job).pending.filter fun x => x.job.isChore = true) =
      t.chores := by
    rw [Agenda.filter_push Job.isChore, hjob]
    exact Multiset.zero_add _
  exact congrArg (Household.mk t.now t.session) hchores

/-! ## Fetches and writes -/

/-- An attempt of a flight is not to be seen. -/
theorem Orderly.attempt (h : t.Orderly) (flight number : Nat) :
    t.Rests (t.attempt flight number) := by
  unfold Timeline.attempt
  cases t.session.fetches[flight]? with
  | none => exact .refl h
  | some f =>
      have hsent : t.Rests (t.send (f.endpoint.request f.args)).2 := .of_same h rfl rfl
      exact hsent.trans (hsent.orderly.schedule _ rfl)

/-- The take-off of a flight is not to be seen. -/
theorem Orderly.takeOff (h : t.Orderly) (flight : Nat) (attended : Bool) :
    t.Rests (t.takeOff flight attended) := by
  unfold Timeline.takeOff
  split
  · exact .refl h
  · have hset : t.Rests (t.setProgress flight (.airborne attended)) := .of_same h rfl rfl
    exact hset.trans (hset.orderly.attempt flight 0)

/-- How far a flight has got is not to be seen. -/
theorem Stirs.setProgress (h : t.Stirs t') (flight : Nat) (progress : Progress) :
    t.Stirs (t'.setProgress flight progress) :=
  h.of_rests (.of_same h.orderly rfl rfl)

/-- At a follow-up nobody comes or goes. -/
theorem Orderly.followUp (h : t.Orderly) (flight : Nat) (f : Fetch) :
    t.Stirs ((t.become (t.session.followUp f)).clearProgress flight) := by
  have hfollowed := h.stirs (Session.tells_followUp t.session f)
  exact hfollowed.of_rests (.of_same hfollowed.orderly rfl rfl)

/-- When a fetch is to be carried out nobody comes or goes. -/
theorem Orderly.carry (h : t.Orderly) (flight : Nat) : t.Stirs (t.carry flight) := by
  unfold Timeline.carry
  cases t.state.progress[flight]? with
  | none => exact (h.takeOff flight true).stirs
  | some progress =>
      cases progress with
      | airborne attended => exact (Rests.refl h).stirs.setProgress flight (.airborne true)
      | landed f => exact h.followUp flight f

/-- Tasks that end are not to be seen. -/
theorem Orderly.finishes (h : t.Orderly) (waiters : List Waiting) (told : Outcome) :
    t.Rests (waiters.foldl (fun t w => t.finish w.name told) t) := by
  rw [finishes_eq]
  exact .of_same h rfl rfl

/-- At a landing nobody comes or goes. -/
theorem Orderly.land (h : t.Orderly) (flight : Nat) (f : Fetch) (brought : Except Failure Json) :
    t.Stirs (t.land flight f brought) := by
  have hlanded := h.stirs (Session.tells_land t.session t.now flight f brought)
  have htold : ∀ (waiters rest : List Waiting) (told : Outcome), t.Stirs
      ((waiters.foldl (fun t w => t.finish w.name told)
        (t.become (t.session.land t.now flight f brought).2)).alter
          fun scene => { scene with waiting := rest }) := by
    intro waiters rest told
    have hfinished := hlanded.of_rests (hlanded.orderly.finishes waiters told)
    exact hfinished.of_rests (.of_same hfinished.orderly rfl rfl)
  unfold Timeline.land
  simp only
  split
  · exact (htold _ _ _).trans ((htold _ _ _).orderly.followUp flight f)
  · exact Stirs.setProgress (htold _ _ _) flight (.landed f)

/-- When an attempt is answered nobody comes or goes, whether it is the last or not. -/
theorem Orderly.answered (h : t.Orderly) (flight number : Nat) (brought : Except Failure Json) :
    t.Stirs (t.answered flight number brought) := by
  unfold Timeline.answered
  cases t.session.fetches[flight]? with
  | none => exact (Rests.refl h).stirs
  | some f =>
      simp only
      split
      · exact (h.schedule _ rfl).stirs
      · exact h.land flight f brought

/-- When a write begins nobody comes or goes. -/
theorem Orderly.mutate (h : t.Orderly) (task : Nat) (name : String) (m : Mutation) (args : Json)
    (edits : List SpeculativeEdit) : t.Stirs (t.mutate task name m args edits) := by
  have hbegun := h.stirs (Session.tells_beginWrite t.session edits)
  have hsent : (t.become (t.session.beginWrite edits).2).Rests
      ((((t.become (t.session.beginWrite edits).2).send (m.request args)).2).alter fun scene =>
        { scene with
          writing := scene.writing.insert task ⟨name, (t.session.beginWrite edits).1, m, args⟩ }) :=
    .of_same hbegun.orderly rfl rfl
  exact hbegun.of_rests (hsent.trans (hsent.orderly.schedule _ rfl))

/-- That a write is taken off the list of those that wait is not to be seen. -/
theorem Orderly.takeWriting (h : t.Orderly) (task : Nat) : t.Rests (t.takeWriting task).2 :=
  .of_same h rfl rfl

/-- At the answer to a write nobody comes or goes. -/
theorem Orderly.written (h : t.Orderly) (task : Nat) (brought : Except Failure Json) :
    t.Stirs (t.written task brought) := by
  have htaken := h.takeWriting task
  unfold Timeline.written
  cases hw : t.takeWriting task with
  | mk w taken =>
      rw [hw] at htaken
      cases w with
      | none => exact htaken.stirs
      | some w =>
          cases brought with
          | ok response =>
              have hconfirmed := htaken.orderly.stirs
                (Session.tells_confirm taken.session w.write w.mutation w.args response)
              exact (htaken.stirs.trans hconfirmed).of_rests (.of_same hconfirmed.orderly rfl rfl)
          | error failure =>
              have hgivenUp := htaken.orderly.stirs
                (Session.tells_giveUp taken.session w.write failure)
              exact (htaken.stirs.trans hgivenUp).of_rests (.of_same hgivenUp.orderly rfl rfl)

/-- When a write is taken back nobody comes or goes. -/
theorem Orderly.withdraw (h : t.Orderly) (task : Nat) : t.Stirs (t.withdraw task) := by
  have htaken := h.takeWriting task
  unfold Timeline.withdraw
  cases hw : t.takeWriting task with
  | mk w taken =>
      rw [hw] at htaken
      cases w with
      | none => exact htaken.stirs
      | some w =>
          exact htaken.stirs.trans
            (htaken.orderly.stirs (Session.tells_withdraw taken.session w.write))

/-! ## Steps -/

/-- Whatever chores were asked for are on the agenda. -/
theorem Orderly.chores (h : t.Orderly) : t.session.chores = [] := by
  unfold Session.chores
  rw [h.settled]
  rfl

/-- Any operation of the session but a reset is a step. -/
theorem Orderly.turn (h : t.Orderly) {e : Event} {s : Session}
    (hturn : t.session.Turnover t.now e s) (he : e ≠ .reset) : t.Steps .plain (t.become s) := by
  obtain ⟨horderly, hhousehold⟩ := h.become s
  refine ⟨horderly, ?_⟩
  rw [hhousehold]
  exact .turns he h.chores hturn

/-- What leaves everybody where he is counts as a plain step. -/
theorem Stirs.steps (h : t.Stirs t') (horderly : t.Orderly) : t.Steps .plain t' := by
  have hsession : t'.session.takeErrands.2 = t'.session := by
    have herrands := h.orderly.settled
    cases hsame : t'.session
    rw [hsame] at herrands
    simp only at herrands
    simp [Session.takeErrands, herrands]
  have hhousehold : t'.household = ⟨t.now, t'.session.takeErrands.2,
      t.chores + Household.asked t.now t'.session.chores⟩ := by
    rw [hsession, h.orderly.chores, ← h.now, ← h.chores]
    exact congrArg (Household.mk t'.now t'.session) (Multiset.add_zero _).symm
  refine ⟨h.orderly, ?_⟩
  rw [hhousehold]
  exact .turns (e := .collect) (by simp) horderly.chores (.tells h.tells)

/-- What nobody notices may follow. -/
theorem Steps.of_rests {m : Household.Mark} (h : t.Steps m t') (h' : t'.Rests t'') :
    t.Steps m t'' :=
  ⟨h'.orderly, h'.household ▸ h.step⟩

/-- A chore comes off the agenda before it is done, and any other job goes unnoticed. -/
theorem Orderly.pop (h : t.Orderly) {job : Job} {agenda : Agenda Job}
    (hpop : t.agenda.pop? = some (job, agenda)) :
    Orderly { t with agenda := agenda } ∧ agenda.now = t.now ∧
      t.chores = (if job.isChore then {⟨t.now, job⟩} else 0) +
        Timeline.chores { t with agenda := agenda } := by
  exact ⟨⟨h.prompt.pop hpop, h.settled⟩, (Agenda.pending_pop hpop).2,
    Agenda.filter_pop Job.isChore hpop⟩

/-- A query may make an entry, so it is a plain step, with or without one. -/
theorem Orderly.query (h : t.Orderly) (task : Nat) (name endpoint : String) (args : Json) :
    t.Steps .plain (t.query task name endpoint args) := by
  unfold Timeline.query
  cases hlookup : t.session.lookup endpoint with
  | error why =>
      have hfinished : t.Rests (t.finish name (.refused why)) := .of_same h rfl rfl
      exact hfinished.stirs.steps h
  | ok found =>
      simp only
      have hasked : t.Steps .plain (t.become (t.session.query t.now found args).2) :=
        h.turn (Session.turnover_query hlookup t.now args) (by simp)
      cases hquery : t.session.query t.now found args with
      | mk answer session =>
          rw [hquery] at hasked
          cases answer with
          | ready data => exact hasked.of_rests (.of_same hasked.orderly rfl rfl)
          | flying flight =>
              have hwaits : (t.become session).Rests ((t.become session).alter fun scene =>
                  { scene with waiting := scene.waiting ++ [⟨task, name, flight⟩] }) :=
                .of_same hasked.orderly rfl rfl
              exact hasked.of_rests (hwaits.trans (hwaits.orderly.takeOff flight false))

/-- Doing any job but a chore is a step, and no reset and no tick. -/
theorem Orderly.carryOut (h : t.Orderly) {job : Job} (hjob : job.isChore = false) :
    t.Steps .plain (Timeline.work job t) := by
  cases job with
  | journal =>
      have hread : t.Rests t.readUpdates := .of_same h rfl rfl
      exact hread.stirs.steps h
  | query task name endpoint args => exact h.query task name endpoint args
  | mutate task name m args edits => exact (h.mutate task name m args edits).steps h
  | withdraw task => exact (h.withdraw task).steps h
  | carry flight => exact (h.carry flight).steps h
  | attempt flight number => exact (h.attempt flight number).stirs.steps h
  | answered flight number brought => exact (h.answered flight number brought).steps h
  | written task brought => exact (h.written task brought).steps h
  | _ => exact absurd hjob (by simp [Job.isChore])

/-! ## Chores -/

/-- A chore that is scheduled joins the others. -/
theorem household_schedule (t : Timeline σ) (due : Nat) (job : Job) (hjob : job.isChore = true) :
    (t.schedule due job).household =
      ⟨t.now, t.session, ⟨max t.now due, job⟩ ::ₘ t.chores⟩ := by
  have hchores : (t.schedule due job).chores = ⟨max t.now due, job⟩ ::ₘ t.chores := by
    unfold Timeline.chores Timeline.schedule
    rw [Agenda.filter_schedule Job.isChore, if_pos hjob, Multiset.singleton_add]
    rfl
  unfold Timeline.household
  rw [hchores]
  exact congrArg (Household.mk · t.session _) (t.agenda.now_schedule due job)

/-- The household of a timeline whose next job has been taken off the agenda. -/
theorem Orderly.household_pop (h : t.Orderly) {job : Job} {agenda : Agenda Job}
    (hpop : t.agenda.pop? = some (job, agenda)) (hjob : job.isChore = true) :
    t.household = ⟨agenda.now, t.session, ⟨agenda.now, job⟩ ::ₘ
      Timeline.chores { t with agenda := agenda }⟩ := by
  obtain ⟨-, hnow, hchores⟩ := h.pop hpop
  rw [if_pos hjob, Multiset.singleton_add] at hchores
  unfold Timeline.household
  rw [hnow, hchores]

/-- A session that asks for nothing. -/
theorem Orderly.household_become (h : t.Orderly) {s : Session} (hchores : s.chores = []) :
    (t.become s).household = ⟨t.now, s.takeErrands.2, t.chores⟩ := by
  rw [(h.become s).2, hchores]
  exact congrArg (Household.mk t.now s.takeErrands.2) (Multiset.add_zero _)

/-- An eviction asks for no chores. -/
theorem chores_evict (s : Session) (now : Nat) (k : Key) : (s.evict now k).chores = s.chores := by
  unfold Session.evict
  split <;> rfl

/-- What a job is known by. -/
def markOf (t : Timeline σ) : Job → Household.Mark
  | .tick k serial _ _ =>
    if t.session.polls.isCurrent k serial ∧ t.session.isWatched k then .tick k else .plain
  | _ => .plain

/-- A tick fetches and sets the next one, or finds that its poll is over. -/
theorem Orderly.tick (h : t.Orderly) {k : Key} {serial interval due : Nat}
    (hhousehold : t'.household =
      ⟨t.now, t.session, ⟨t.now, .tick k serial interval due⟩ ::ₘ t.chores⟩) :
    t'.Steps (t.markOf (.tick k serial interval due)) (t.tick k serial interval due) := by
  unfold Timeline.tick
  by_cases hcurrent : t.session.polls.isCurrent k serial = true
  · rw [if_pos hcurrent]
    unfold Session.tick
    cases hwatched : t.session.isWatched k with
    | true =>
        let next := Polls.nextDue interval due t.now
        have hmark : t.markOf (.tick k serial interval due) = .tick k := by
          simp [markOf, hcurrent, hwatched]
        have hstirs := h.stirs (Session.tells_refetch t.session k)
        refine ⟨⟨hstirs.orderly.prompt.schedule next _, hstirs.orderly.settled⟩, ?_⟩
        have hnext := household_schedule (t.become (t.session.refetch k)) next
          (.tick k serial interval next) rfl
        rw [hstirs.now, hstirs.chores] at hnext
        rw [hmark, hhousehold]
        exact hnext ▸ .ticks hcurrent hwatched hstirs.tells
    | false =>
        have hmark : t.markOf (.tick k serial interval due) = .plain := by
          simp [markOf, hwatched]
        refine ⟨(h.become _).1, ?_⟩
        have hceased := h.household_become
          (s := { t.session with polls := t.session.polls.finish k serial }) h.chores
        rw [hmark, hhousehold]
        exact hceased ▸ .ceases h.chores hcurrent hwatched
  · have hmark : t.markOf (.tick k serial interval due) = .plain := by
      simp [markOf, hcurrent]
    rw [if_neg hcurrent]
    refine ⟨h, ?_⟩
    rw [hmark, hhousehold]
    exact .lapses (by simpa using hcurrent)

/-- **Every job is one step.** -/
theorem Orderly.work (h : t.Orderly) {job : Job} {agenda : Agenda Job}
    (hpop : t.agenda.pop? = some (job, agenda)) :
    t.Steps (t.markOf job) (Timeline.work job { t with agenda := agenda }) := by
  obtain ⟨hrest, hnow, hchores⟩ := h.pop hpop
  let rest : Timeline σ := { t with agenda := agenda }
  cases hjob : job.isChore with
  | false =>
      rw [hjob] at hchores
      have hmark : t.markOf job = .plain := by
        cases job <;> first | rfl | exact absurd hjob (by simp [Job.isChore])
      have hsame : rest.household = t.household := by
        unfold Timeline.household
        rw [hchores, Timed.now, hnow]
        exact congrArg (Household.mk t.now t.session) (Multiset.zero_add _).symm
      obtain ⟨horderly, hstep⟩ := hrest.carryOut hjob
      rw [hmark]
      exact ⟨horderly, hsame ▸ hstep⟩
  | true =>
      have hhousehold := h.household_pop hpop hjob
      cases job with
      | poll k serial interval =>
          have hnext := household_schedule rest (rest.now + interval)
            (.tick k serial interval (rest.now + interval)) rfl
          rw [Nat.max_eq_right (Nat.le_add_right _ _)] at hnext
          refine ⟨⟨hrest.prompt.schedule _ _, hrest.settled⟩, ?_⟩
          rw [hhousehold]
          exact hnext ▸ .setsOut k serial interval
      | tick k serial interval due => exact hrest.tick hhousehold
      | grace k =>
          have hnext := household_schedule rest
            (rest.now + Timer.span rest.session.setup.options.keep) (.evict k) rfl
          rw [Nat.max_eq_right (Nat.le_add_right _ _)] at hnext
          refine ⟨⟨hrest.prompt.schedule _ _, hrest.settled⟩, ?_⟩
          rw [hhousehold]
          exact hnext ▸ .begins k
      | evict k =>
          have hevicted := hrest.household_become (s := rest.session.evict rest.now k)
            ((chores_evict _ _ _).trans hrest.chores)
          refine ⟨(hrest.become _).1, ?_⟩
          rw [hhousehold]
          exact hevicted ▸ .evicts k hrest.chores
      | _ => exact absurd hjob (by simp [Job.isChore])

/-! ## Moves -/

/-- What a move is known by. -/
def mark (t : Timeline σ) : Move → Household.Mark
  | .ask .reset _ => .reset
  | .work => match t.agenda.pop? with
    | some (job, _) => t.markOf job
    | none => .plain
  | _ => .plain

/-- Doing nothing is a plain step. -/
theorem Orderly.steps_refl (h : t.Orderly) : t.Steps .plain t := (Rests.refl h).stirs.steps h

/-- A task that begins is a plain step. -/
theorem Orderly.spawn (h : t.Orderly) (name : String) (job : Nat → Job)
    (hjob : ∀ task, (job task).isChore = false) : t.Steps .plain (t.spawn name job) := by
  have hpushed := h.push (job t.state.nextTask) (hjob _)
  have hspawned : t.Rests (t.spawn name job) :=
    hpushed.trans (.of_same hpushed.orderly rfl rfl)
  exact hspawned.stirs.steps h

/-- What is asked for in brief is the step that bears its mark. -/
theorem Orderly.ask (h : t.Orderly) {d : Demand} (hbrief : d.isBrief = true) :
    t.Steps (t.mark (.ask d hbrief)) (t.grant d) := by
  cases d with
  | subscribe name args =>
      simp only [Timeline.grant]
      cases hlookup : t.session.lookup name with
      | error why => exact h.steps_refl
      | ok endpoint => exact h.turn (Session.turnover_subscribe hlookup t.now args) (by simp)
  | unsubscribe ticket => exact h.turn (Session.turnover_unsubscribe _ t.now ticket) (by simp)
  | refetch k => exact (h.stirs (Session.tells_refetch _ k)).steps h
  | invalidate tags => exact (h.stirs (Session.tells_invalidate _ tags)).steps h
  | collect => exact h.turn (Session.turnover_collect _ t.now) (by simp)
  | reset =>
      have hcleared := h.household_become (s := t.session.reset) h.chores
      refine ⟨(h.become _).1, ?_⟩
      exact hcleared ▸ .resets
  | standIn =>
      have htells : t.session.Tells [] t.session.standIn.2 := .of_same rfl rfl rfl rfl rfl
      exact (h.stirs htells).steps h
  | startQuery name endpoint args =>
      exact h.spawn name (fun task => .query task name endpoint args) fun _ => rfl
  | startWrite name m args edits =>
      exact h.spawn name (fun task => .mutate task name m args edits) fun _ => rfl
  | cancel name =>
      simp only [Timeline.grant, Timeline.cancel]
      split
      · exact h.steps_refl
      · rename_i task htask
        have hpushed := h.push (.withdraw task) rfl
        refine Stirs.steps (Rests.stirs (hpushed.trans ?_)) h
        exact .of_same hpushed.orderly rfl rfl
  | pass duration => cases hbrief
  | awaitChange patience v => cases hbrief
  | awaitOutcome alarms => cases hbrief

/-- The clock goes on, and no chore is left behind. -/
theorem Orderly.wait (h : t.Orderly) {agenda : Agenda Job} (hprompt : agenda.Prompt)
    (hpending : agenda.pending = t.agenda.pending) (hlater : t.now ≤ agenda.now)
    (hdue : ∀ x ∈ t.agenda.pending, agenda.now ≤ x.due) :
    t.Steps .plain { t with agenda := agenda } := by
  refine ⟨⟨hprompt, h.settled⟩, ?_⟩
  have hhousehold : household { t with agenda := agenda } =
      ⟨agenda.now, t.session, t.chores⟩ := by
    unfold Timeline.household Timeline.chores
    rw [hpending]
    rfl
  rw [hhousehold]
  exact .waits hlater fun x hx => hdue x (Multiset.mem_filter.mp hx).1

/-- **Every move is one step of the household.** -/
theorem Orderly.move (h : t.Orderly) (m : Move) : t.Steps (t.mark m) (t.move m) := by
  cases m with
  | ask d hbrief => exact h.ask hbrief
  | work =>
      cases hpop : t.agenda.pop? with
      | some next =>
          have hmark : t.mark .work = t.markOf next.1 := by simp only [mark, hpop]
          rw [move_work hpop, hmark]
          exact h.work hpop
      | none =>
          have hmark : t.mark .work = .plain := by simp only [mark, hpop]
          have hmove : t.move .work = t := by simp only [Timeline.move, hpop]
          rw [hmove, hmark]
          exact h.steps_refl
  | wait limit =>
      change t.Steps .plain _
      cases hpop : t.agenda.pop? with
      | some next =>
          have hmove : t.move (.wait limit) = t := by simp only [Timeline.move, hpop]
          rw [hmove]
          exact h.steps_refl
      | none =>
          have hready := Agenda.ready_of_pop hpop
          cases hwake : t.agenda.wake? limit with
          | some agenda =>
              obtain ⟨hprompt, hpending, hlater, hdue⟩ := h.prompt.wake hready hwake
              rw [move_wake hpop hwake]
              exact h.wait hprompt hpending hlater hdue
          | none =>
              obtain ⟨hprompt, hpending, hdue⟩ := h.prompt.rest hready hwake
              rw [move_rest hpop hwake]
              exact h.wait hprompt hpending (Nat.le_max_left _ _) hdue

/-- A timeline is orderly at the start. -/
theorem orderly_start (setup : Setup) (answer : Request → σ → Reply × σ) (server : σ) :
    (start setup answer server).Orderly :=
  ⟨⟨.nil, by simp [start, Agenda.start]⟩, rfl⟩

/-- A timeline is orderly after all moves. -/
theorem orderly_moved (h : t.Orderly) (moves : List Move) : (t.moved moves).Orderly := by
  induction moves with
  | nil => exact h
  | cons m moves ih => exact (ih.move m).orderly

/-- All that is due has been done. -/
def CaughtUp (t : Timeline σ) : Prop := ∀ x ∈ t.agenda.pending, t.now < x.due

/-- When nothing is ready nothing is due. -/
theorem Orderly.caughtUp (h : t.Orderly) (hready : t.agenda.ready = []) : t.CaughtUp := by
  intro x hx
  rw [Agenda.pending_of_ready hready] at hx
  exact h.prompt.ahead x hx

section Runs

variable (setup : Setup) (answer : Request → σ → Reply × σ) (server : σ) (h : List Move)

/-- Each move is one step of the household. -/
theorem step_moved (m : Move) :
    Household.Step (((start setup answer server).moved h).mark m)
      ((start setup answer server).moved h).household
      ((start setup answer server).moved (m :: h)).household :=
  ((orderly_moved (orderly_start setup answer server) h).move m).step

/-- Setup and grace period are those of the start. -/
theorem setup_moved : ((start setup answer server).moved h).session.setup = setup ∧
    ((start setup answer server).moved h).session.cache.keep = setup.options.keep := by
  induction h with
  | nil => exact ⟨rfl, rfl⟩
  | cons m h ih =>
      obtain ⟨hsetup, hkeep⟩ := (step_moved setup answer server h m).setup
      exact ⟨hsetup.trans ih.1, hkeep.trans ih.2⟩

theorem attendance_start (k : Key) : (start setup answer server).session.attendance k = none := by
  simp [Session.attendance, session, start, Session.start, Session.read, Cache.read, Cache.empty]

end Runs

end Timeline

end QueryCache
