import QueryCache.Proofs.Household
/-!
# What a timeline sends

`sendings` is a log of all that a timeline sends, with the answers and with the flight that each
request was sent for.  The timeline itself puts down requests and times, and these are the log's
(`calls_moved`).  What was `sent` for a flight is a part of it.

A job that is not a flight's own leaves it as it is (`Aside`), except that it may have the flight
take off (`besides_work`).
-/

namespace QueryCache

/-- A request that was sent, and what the server answers. -/
structure Sending where
  /-- The flight it was sent for, if it is not a write's. -/
  flight : Option Nat
  time : Nat
  request : Request
  reply : Reply

/-- Whether it was sent for a flight. -/
def Sending.isOf (flight : Nat) (s : Sending) : Bool := s.flight = some flight

/-- What a timeline puts down of it. -/
def Sending.call (s : Sending) : Call := ⟨s.time, s.request⟩

/-- Whether a job is one of a flight in the air: to send its request again, or to take an answer. -/
def Job.isOf (flight : Nat) : Job → Bool
  | .attempt n _ | .answered n _ _ => n = flight
  | _ => false

namespace Timeline

variable {σ : Type}

/-! ## What comes with a job -/

/-- What a request would bring that was sent now. -/
def sendingOf (t : Timeline σ) (flight : Option Nat) (r : Request) : Sending :=
  ⟨flight, t.now, r, (t.state.answer r t.state.server).1⟩

/-- The request of a flight in the air, were it sent now. -/
def sending? (t : Timeline σ) (flight : Nat) : Option Sending :=
  t.session.fetches[flight]?.map fun f => t.sendingOf flight (f.endpoint.request f.args)

/-- What is sent when a flight takes off. -/
def firstSending? (t : Timeline σ) (flight : Nat) : Option Sending :=
  if t.state.progress.contains flight then none else t.sending? flight

/-- What is sent when a job is done. -/
def sentBy? (t : Timeline σ) : Job → Option Sending
  | .attempt n _ => t.sending? n
  | .carry n => t.firstSending? n
  | .query _ _ name args => match t.session.lookup name with
    | .error _ => none
    | .ok endpoint => match t.session.query t.now endpoint args with
      | (.ready _, _) => none
      | (.flying n, session) => (t.become session).firstSending? n
  | .mutate _ _ m args _ => t.sendingOf none (m.request args)
  | _ => none

/-- What a move has in store, if a job is done with it. -/
def withJob {α : Type} (t : Timeline σ) (of : Timeline σ → Job → Option α) : Move → Option α
  | .work => match t.agenda.pop? with
    | some (job, agenda) => of { t with agenda := agenda } job
    | none => none
  | _ => none

/-- All that was sent, the latest first. -/
def sendings (t : Timeline σ) : List Move → List Sending
  | [] => []
  | m :: h => ((t.moved h).withJob sentBy? m).toList ++ t.sendings h

/-- What was sent for a flight. -/
def sent (t : Timeline σ) (flight : Nat) (h : List Move) : List Sending :=
  (t.sendings h).filter (Sending.isOf flight)

variable {t t' t'' : Timeline σ} {flight : Nat}

/-! ## What a timeline puts down -/

/-- An attempt is put down as what is sent for the flight. -/
theorem calls_attempt (t : Timeline σ) (n number : Nat) :
    (t.attempt n number).state.calls = (t.sending? n).toList.map Sending.call ++ t.state.calls := by
  unfold Timeline.attempt sending?
  cases t.session.fetches[n]? <;> rfl

/-- The first attempt is put down. -/
theorem calls_takeOff (t : Timeline σ) (n : Nat) (attended : Bool) :
    (t.takeOff n attended).state.calls =
      (t.firstSending? n).toList.map Sending.call ++ t.state.calls := by
  unfold Timeline.takeOff firstSending?
  split
  · rfl
  · exact calls_attempt _ n 0

/-- Nothing is sent at a landing. -/
theorem calls_land (t : Timeline σ) (n : Nat) (f : Fetch) (brought : Except Failure Json) :
    (t.land n f brought).state.calls = t.state.calls := by
  unfold Timeline.land
  simp only [finishes_eq]
  split <;> rfl

/-- A flight that has taken off does not do so again. -/
theorem takeOff_of_progress {progress : Progress}
    (hprogress : t.state.progress[flight]? = some progress) (attended : Bool) :
    t.takeOff flight attended = t := by
  refine if_pos ?_
  rw [Std.ExtTreeMap.contains_eq_isSome_getElem?, hprogress]
  rfl

/-- Then nothing is sent. -/
theorem firstSending?_of_progress {progress : Progress}
    (hprogress : t.state.progress[flight]? = some progress) : t.firstSending? flight = none := by
  refine if_pos ?_
  rw [Std.ExtTreeMap.contains_eq_isSome_getElem?, hprogress]
  rfl

/-- A query sends something when it is the first to carry out its flight. -/
theorem calls_query (t : Timeline σ) (task : Nat) (name endpoint : String) (args : Json) :
    (t.query task name endpoint args).state.calls =
      (t.sentBy? (.query task name endpoint args)).toList.map Sending.call ++ t.state.calls := by
  cases hlookup : t.session.lookup endpoint with
  | error why =>
      simp only [Timeline.query, sentBy?, hlookup]
      rfl
  | ok found =>
      cases hquery : t.session.query t.now found args with
      | mk answer session =>
          simp only [Timeline.query, sentBy?, hlookup, hquery]
          cases answer with
          | ready data => rfl
          | flying n => exact calls_takeOff _ n false

/-- A write sends its request at once. -/
theorem calls_mutate (t : Timeline σ) (task : Nat) (name : String) (m : Mutation) (args : Json)
    (edits : List SpeculativeEdit) :
    (t.mutate task name m args edits).state.calls =
      (t.sendingOf none (m.request args)).call :: t.state.calls := by
  have hnow := (t.agenda_become (t.session.beginWrite edits).2).2.1
  change ⟨(t.become (t.session.beginWrite edits).2).now, m.request args⟩ :: t.state.calls = _
  rw [hnow]
  rfl

/-- **What a job sends is put down, and nothing else.** -/
theorem calls_work (t : Timeline σ) (job : Job) :
    (work job t).state.calls = (t.sentBy? job).toList.map Sending.call ++ t.state.calls := by
  cases job with
  | query task name endpoint args => exact t.calls_query task name endpoint args
  | mutate task name m args edits => exact t.calls_mutate task name m args edits
  | carry n =>
      simp only [work, Timeline.carry, sentBy?]
      cases hprogress : t.state.progress[n]? with
      | none => exact t.calls_takeOff n true
      | some progress =>
          rw [firstSending?_of_progress hprogress]
          cases progress <;> rfl
  | attempt n number => exact t.calls_attempt n number
  | answered n number brought =>
      simp only [work, Timeline.answered, sentBy?]
      cases t.session.fetches[n]? with
      | none => rfl
      | some f =>
          cases hpause : t.session.setup.options.backoff.pauseAfter? number brought with
          | some pause => rfl
          | none => exact t.calls_land n f brought
  | written task brought =>
      simp only [work, Timeline.written, Timeline.takeWriting]
      cases t.state.writing[task]? with
      | none => rfl
      | some w => cases brought <;> rfl
  | withdraw task =>
      simp only [work, Timeline.withdraw, Timeline.takeWriting]
      cases t.state.writing[task]? <;> rfl
  | tick k serial interval due =>
      simp only [work, Timeline.tick]
      split
      · split <;> rfl
      · rfl
  | journal | poll | grace | evict => rfl

/-- What is sent with a move is put down. -/
theorem calls_move (t : Timeline σ) (m : Move) :
    (t.move m).state.calls = (t.withJob sentBy? m).toList.map Sending.call ++ t.state.calls := by
  cases m with
  | ask d hbrief =>
      cases d with
      | subscribe name args =>
          simp only [Timeline.move, Timeline.grant]
          split <;> rfl
      | cancel name =>
          simp only [Timeline.move, Timeline.grant, Timeline.cancel]
          split <;> rfl
      | pass | awaitChange | awaitOutcome => cases hbrief
      | _ => rfl
  | work =>
      simp only [Timeline.move, withJob]
      cases t.agenda.pop? with
      | none => rfl
      | some next => exact calls_work _ next.1
  | wait limit =>
      cases hpop : t.agenda.pop? with
      | some next => simp only [Timeline.move, hpop]; rfl
      | none =>
          cases hwake : t.agenda.wake? limit with
          | some agenda => rw [move_wake hpop hwake]; rfl
          | none => rw [move_rest hpop hwake]; rfl

/-- **All that was sent is put down**, and nothing else. -/
theorem calls_moved (setup : Setup) (answer : Request → σ → Reply × σ) (server : σ)
    (h : List Move) : ((start setup answer server).moved h).state.calls =
      ((start setup answer server).sendings h).map Sending.call := by
  induction h with
  | nil => rfl
  | cons m h ih =>
      unfold sendings
      rw [List.map_append, ← ih]
      exact calls_move _ m

/-! ## Beside a flight -/

/-- The jobs of a flight on the agenda. -/
def flightJobs (t : Timeline σ) (flight : Nat) : Multiset (Alarm Job) :=
  t.agenda.pending.filter fun x => x.job.isOf flight = true

/-- The flight has taken off, and has not landed. -/
def Airborne (t : Timeline σ) (flight : Nat) : Prop :=
  ∃ attended, t.state.progress[flight]? = some (.airborne attended)

/-- What happens does not concern the flight. -/
structure Aside (flight : Nat) (t t' : Timeline σ) : Prop where
  jobs : t'.flightJobs flight = t.flightJobs flight
  airborne : t.Airborne flight → t'.Airborne flight

theorem Aside.refl (flight : Nat) (t : Timeline σ) : t.Aside flight t := ⟨rfl, id⟩

/-- Two things do not concern the flight if neither does. -/
theorem Aside.trans (h : t.Aside flight t') (h' : t'.Aside flight t'') : t.Aside flight t'' :=
  ⟨h'.jobs.trans h.jobs, h'.airborne ∘ h.airborne⟩

/-- Only the agenda and the progress of flights matter. -/
theorem Aside.of_same (hagenda : t'.agenda = t.agenda)
    (hprogress : t'.state.progress = t.state.progress) : t.Aside flight t' := by
  refine ⟨?_, ?_⟩
  · unfold flightJobs
    rw [hagenda]
  · unfold Airborne
    rw [hprogress]
    exact id

/-- What a session asks for is no job of a flight. -/
theorem aside_become (t : Timeline σ) (s : Session) : t.Aside flight (t.become s) := by
  obtain ⟨-, -, woken, hwoken, hpending⟩ := t.agenda_become s
  refine ⟨?_, id⟩
  have hjournal : (woken.filter fun x => x.job.isOf flight = true) = 0 :=
    Multiset.filter_eq_nil.mpr fun x hx => by simp [hwoken x hx, Job.isOf]
  have hasked :
      ((Household.asked t.now s.errands).filter fun x => x.job.isOf flight = true) = 0 := by
    refine Multiset.filter_eq_nil.mpr fun x hx => ?_
    obtain ⟨e, -, rfl⟩ := List.mem_map.mp (Multiset.mem_coe.mp hx)
    cases e <;> simp [jobOf, Job.isOf]
  unfold flightJobs
  rw [hpending, Multiset.filter_add, Multiset.filter_add, hjournal, hasked, Multiset.zero_add,
    Multiset.add_zero]

/-- Another job may be scheduled. -/
theorem aside_schedule (t : Timeline σ) (due : Nat) {job : Job} (hjob : job.isOf flight = false) :
    t.Aside flight (t.schedule due job) := by
  refine ⟨?_, id⟩
  unfold flightJobs Timeline.schedule
  rw [Agenda.filter_schedule (Job.isOf flight), hjob]
  exact Multiset.zero_add _

/-- Another job may be made ready. -/
theorem aside_push (t : Timeline σ) {job : Job} (hjob : job.isOf flight = false) :
    t.Aside flight { t with agenda := t.agenda.push job } := by
  refine ⟨?_, id⟩
  unfold flightJobs
  rw [Agenda.filter_push (Job.isOf flight), hjob]
  exact Multiset.zero_add _

/-- Another flight may get on. -/
theorem aside_setProgress (t : Timeline σ) {n : Nat} (hn : n ≠ flight) (progress : Progress) :
    t.Aside flight (t.setProgress n progress) := by
  refine ⟨rfl, fun ⟨attended, hairborne⟩ => ⟨attended, ?_⟩⟩
  change (t.state.progress.insert n progress)[flight]? = _
  rw [Std.ExtTreeMap.getElem?_insert, if_neg (by simpa using hn)]
  exact hairborne

/-- Any flight may take off, this one included. -/
theorem aside_airborne (t : Timeline σ) (n : Nat) (attended : Bool) :
    t.Aside flight (t.setProgress n (.airborne attended)) := by
  by_cases hn : n = flight
  · subst hn
    refine ⟨rfl, fun _ => ⟨attended, ?_⟩⟩
    exact Std.ExtTreeMap.getElem?_insert_self
  · exact t.aside_setProgress hn _

/-- Another flight may be done with. -/
theorem aside_clearProgress (t : Timeline σ) {n : Nat} (hn : n ≠ flight) :
    t.Aside flight (t.clearProgress n) := by
  refine ⟨rfl, fun ⟨attended, hairborne⟩ => ⟨attended, ?_⟩⟩
  change (t.state.progress.erase n)[flight]? = _
  rw [Std.ExtTreeMap.getElem?_erase, if_neg (by simpa using hn)]
  exact hairborne

/-- Another flight may send its request. -/
theorem aside_attempt (t : Timeline σ) {n : Nat} (hn : n ≠ flight) (number : Nat) :
    t.Aside flight (t.attempt n number) := by
  unfold Timeline.attempt
  cases t.session.fetches[n]? with
  | none => exact .refl flight t
  | some f =>
      have hsent : t.Aside flight (t.send (f.endpoint.request f.args)).2 := .of_same rfl rfl
      exact hsent.trans (aside_schedule _ _ (by simpa [Job.isOf] using hn))

/-- Another flight may take off. -/
theorem aside_takeOff (t : Timeline σ) {n : Nat} (hn : n ≠ flight) (attended : Bool) :
    t.Aside flight (t.takeOff n attended) := by
  unfold Timeline.takeOff
  split
  · exact .refl flight t
  · exact (t.aside_setProgress hn _).trans (aside_attempt _ hn 0)

/-- The errand of a flight that has landed may follow up. -/
theorem aside_followUp (t : Timeline σ) {n : Nat} (hn : n ≠ flight) (f : Fetch) :
    t.Aside flight ((t.become (t.session.followUp f)).clearProgress n) :=
  (t.aside_become _).trans (aside_clearProgress _ hn)

/-- Another flight may land. -/
theorem aside_land (t : Timeline σ) {n : Nat} (hn : n ≠ flight) (f : Fetch)
    (brought : Except Failure Json) : t.Aside flight (t.land n f brought) := by
  have htold : ∀ (waiters rest : List Waiting) (told : Outcome), t.Aside flight
      ((waiters.foldl (fun t w => t.finish w.name told)
        (t.become (t.session.land t.now n f brought).2)).alter
          fun scene => { scene with waiting := rest }) := by
    intro waiters rest told
    rw [finishes_eq]
    exact (t.aside_become _).trans (.of_same rfl rfl)
  unfold Timeline.land
  simp only
  split
  · exact (htold _ _ _).trans (aside_followUp _ hn f)
  · exact (htold _ _ _).trans (aside_setProgress _ hn _)

/-- Another flight may take an answer. -/
theorem aside_answered (t : Timeline σ) {n : Nat} (hn : n ≠ flight) (number : Nat)
    (brought : Except Failure Json) : t.Aside flight (t.answered n number brought) := by
  unfold Timeline.answered
  cases t.session.fetches[n]? with
  | none => exact .refl flight t
  | some f =>
      simp only
      split
      · exact t.aside_schedule _ (by simpa [Job.isOf] using hn)
      · exact t.aside_land hn f brought

/-- A write may begin. -/
theorem aside_mutate (t : Timeline σ) (task : Nat) (name : String) (m : Mutation) (args : Json)
    (edits : List SpeculativeEdit) : t.Aside flight (t.mutate task name m args edits) := by
  have hsent : (t.become (t.session.beginWrite edits).2).Aside flight
      ((((t.become (t.session.beginWrite edits).2).send (m.request args)).2).alter fun scene =>
        { scene with
          writing := scene.writing.insert task ⟨name, (t.session.beginWrite edits).1, m, args⟩ }) :=
    .of_same rfl rfl
  exact ((t.aside_become _).trans hsent).trans (aside_schedule _ _ rfl)

/-- A write may be answered. -/
theorem aside_written (t : Timeline σ) (task : Nat) (brought : Except Failure Json) :
    t.Aside flight (t.written task brought) := by
  have htaken : t.Aside flight (t.takeWriting task).2 := .of_same rfl rfl
  unfold Timeline.written
  cases hw : t.takeWriting task with
  | mk w taken =>
      rw [hw] at htaken
      cases w with
      | none => exact htaken
      | some w =>
          cases brought with
          | ok response => exact (htaken.trans (aside_become taken _)).trans (.of_same rfl rfl)
          | error failure => exact (htaken.trans (aside_become taken _)).trans (.of_same rfl rfl)

/-- A write may be taken back. -/
theorem aside_withdraw (t : Timeline σ) (task : Nat) : t.Aside flight (t.withdraw task) := by
  have htaken : t.Aside flight (t.takeWriting task).2 := .of_same rfl rfl
  unfold Timeline.withdraw
  cases hw : t.takeWriting task with
  | mk w taken =>
      rw [hw] at htaken
      cases w with
      | none => exact htaken
      | some w => exact htaken.trans (aside_become taken _)

/-- A poll may tick. -/
theorem aside_tick (t : Timeline σ) (k : Key) (serial interval due : Nat) :
    t.Aside flight (t.tick k serial interval due) := by
  unfold Timeline.tick
  split
  · split
    · exact (t.aside_become _).trans (aside_schedule _ _ rfl)
    · exact t.aside_become _
  · exact .refl flight t

/-- A flight whose errand comes when it has taken off, or when it has landed. -/
theorem aside_carry_progress (t : Timeline σ) (n : Nat) {progress : Progress}
    (hprogress : t.state.progress[n]? = some progress) : t.Aside flight (t.carry n) := by
  unfold Timeline.carry
  rw [hprogress]
  cases progress with
  | airborne attended => exact t.aside_airborne n true
  | landed f =>
      by_cases hn : n = flight
      · subst hn
        refine ⟨(t.aside_become _).jobs, fun ⟨attended, hairborne⟩ => ?_⟩
        cases hprogress.symm.trans hairborne
      · exact t.aside_followUp hn f

variable {setup : Setup} {past : History}

/-- What is sent for a flight is sent for no other. -/
theorem filter_sending (t : Timeline σ) (n flight : Nat) :
    (t.sending? n).toList.filter (Sending.isOf flight) =
      if n = flight then (t.sending? n).toList else [] := by
  unfold sending?
  cases t.session.fetches[n]? with
  | none => exact (ite_self _).symm
  | some f => simp [sendingOf, Sending.isOf, List.filter_cons]

theorem filter_firstSending (t : Timeline σ) (n flight : Nat) :
    (t.firstSending? n).toList.filter (Sending.isOf flight) =
      if n = flight then (t.firstSending? n).toList else [] := by
  unfold firstSending?
  split
  · exact (ite_self _).symm
  · exact t.filter_sending n flight

/-- What a job does that is not one of the flight's: it does not concern the flight, but may have it
take off in the end. -/
inductive Besides (setup : Setup) (past : History) (flight : Nat) (t : Timeline σ) :
    Timeline σ → List Sending → Prop
  | stays {t' : Timeline σ} (haside : t.Aside flight t') (hreached : t'.Reached setup past) :
      Besides setup past flight t t' []
  | takesOff {t' : Timeline σ} (attended : Bool) (haside : t.Aside flight t')
      (hreached : t'.Reached setup past) :
      Besides setup past flight t (t'.takeOff flight attended) (t'.firstSending? flight).toList

/-- A query may find the flight in the air and be the first to carry it out. -/
theorem besides_query (hreached : t.Reached setup past) (task : Nat) (name endpoint : String)
    (args : Json) : Besides setup past flight t (t.query task name endpoint args)
      ((t.sentBy? (.query task name endpoint args)).toList.filter (Sending.isOf flight)) := by
  have hdone := hreached.query task name endpoint args
  cases hlookup : t.session.lookup endpoint with
  | error why =>
      simp only [Timeline.query, sentBy?, hlookup] at hdone ⊢
      exact .stays (.of_same rfl rfl) hdone
  | ok found =>
      have hasked := hreached.asked hlookup args
      have haside : t.Aside flight _ := t.aside_become (t.session.query t.now found args).2
      cases hquery : t.session.query t.now found args with
      | mk answer session =>
          rw [hquery] at hasked haside
          cases answer with
          | ready data =>
              simp only [Timeline.query, sentBy?, hlookup, hquery] at hdone ⊢
              exact .stays (haside.trans (.of_same rfl rfl)) hdone
          | flying n =>
              simp only [Timeline.query, sentBy?, hlookup, hquery] at hdone ⊢
              have hwaits : (t.become session).Aside flight ((t.become session).alter fun scene =>
                  { scene with waiting := scene.waiting ++ [⟨task, name, n⟩] }) := .of_same rfl rfl
              rw [filter_firstSending]
              by_cases hn : n = flight
              · subst hn
                rw [if_pos rfl]
                exact .takesOff false (haside.trans hwaits) (hasked.of_same rfl rfl rfl)
              · rw [if_neg hn]
                exact .stays ((haside.trans hwaits).trans (aside_takeOff _ hn false)) hdone

/-- The errand of the flight may be the first to carry it out. -/
theorem besides_carry (hreached : t.Reached setup past) (n : Nat) :
    Besides setup past flight t (t.carry n)
      ((t.sentBy? (.carry n)).toList.filter (Sending.isOf flight)) := by
  have hdone := hreached.carry n
  simp only [sentBy?]
  cases hprogress : t.state.progress[n]? with
  | none =>
      unfold Timeline.carry at hdone ⊢
      rw [hprogress] at hdone ⊢
      rw [filter_firstSending]
      by_cases hn : n = flight
      · subst hn
        rw [if_pos rfl]
        exact .takesOff true (.refl n t) hreached
      · rw [if_neg hn]
        exact .stays (t.aside_takeOff hn true) hdone
  | some progress =>
      rw [firstSending?_of_progress hprogress]
      exact .stays (t.aside_carry_progress n hprogress) hdone

/-- **No job but the flight's own concerns it**, except that it may take off. -/
theorem besides_work (hreached : t.Reached setup past) {job : Job}
    (hjob : job.isOf flight = false) :
    Besides setup past flight t (work job t)
      ((t.sentBy? job).toList.filter (Sending.isOf flight)) := by
  have hdone := hreached.work job
  cases job with
  | journal => exact .stays (.of_same rfl rfl) hdone
  | query task name endpoint args => exact besides_query hreached task name endpoint args
  | mutate task name m args edits => exact .stays (t.aside_mutate task name m args edits) hdone
  | withdraw task => exact .stays (t.aside_withdraw task) hdone
  | carry n => exact besides_carry hreached n
  | attempt n number =>
      have hn : n ≠ flight := by simpa [Job.isOf] using hjob
      rw [sentBy?, filter_sending, if_neg hn]
      exact .stays (t.aside_attempt hn number) hdone
  | answered n number brought =>
      exact .stays (t.aside_answered (by simpa [Job.isOf] using hjob) number brought) hdone
  | written task brought => exact .stays (t.aside_written task brought) hdone
  | poll k serial interval => exact .stays (t.aside_schedule _ rfl) hdone
  | tick k serial interval due => exact .stays (t.aside_tick k serial interval due) hdone
  | grace k => exact .stays (t.aside_schedule _ rfl) hdone
  | evict k => exact .stays (t.aside_become _) hdone

end Timeline

end QueryCache
