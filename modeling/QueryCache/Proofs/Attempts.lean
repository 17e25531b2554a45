import QueryCache.Proofs.Overtaking
import QueryCache.Proofs.Repetition
import QueryCache.Proofs.Sendings
/-!
# The attempts of a flight

`course` tells how a request goes that is repeated after failures, as if nothing else were going on.
On a timeline the attempts of a flight and their answers are jobs among all others, and it may be
dropped at any time.  Still it keeps to its course (`flights_keep_to_courses`).

`Stands` is the invariant.  A flight in the air for which something was sent has one job on the
agenda, an answer that comes in time or the next attempt after the pause, and what was sent for it is
a beginning of a course (`Course.Sent`).
-/

namespace QueryCache

/-- What a flight brings, and when. -/
structure Landing where
  time : Nat
  brought : Except Failure Json

/-! ## Courses as they are put down -/

namespace Course

/-- The attempts of a request, the latest first.  Each but the first is sent when the one before has
brought a failure that is to be repeated, and the pause is over. -/
inductive Sent (b : Backoff) (timeout : Nat) : Nat → List Sending → Prop
  | first (s : Sending) : Sent b timeout s.time [s]
  | again {start : Nat} {s next : Sending} {l : List Sending} {pause : Nat}
      (h : Sent b timeout start (s :: l))
      (hpause : b.pauseAfter? l.length (s.reply.within timeout).brought = some pause)
      (htime : next.time = s.time + (s.reply.within timeout).delay + pause) :
      Sent b timeout start (next :: s :: l)

/-- The attempts had these answers, by their numbers. -/
def Had (answer : Nat → Reply) : List Sending → Prop
  | [] => True
  | s :: l => answer l.length = s.reply ∧ Had answer l

variable {b : Backoff} {timeout start : Nat} {answer : Nat → Reply} {s : Sending}
  {l : List Sending}

/-- What is heard of the latest attempt. -/
theorem Had.heard (h : Had answer (s :: l)) :
    heard timeout answer l.length = s.reply.within timeout :=
  congrArg (Reply.within · timeout) h.1

/-- The latest attempt is sent when its turn has come. -/
theorem Sent.time_eq (h : Sent b timeout start (s :: l)) (hhad : Had answer (s :: l)) :
    s.time = start + departure b timeout answer l.length := by
  generalize hlog : s :: l = log at h
  induction h generalizing s l with
  | first => cases hlog; rfl
  | again h hpause htime ih =>
      cases hlog
      have hbefore := ih hhad.2 rfl
      rw [htime, hbefore, List.length_cons, departure, hhad.2.heard]
      have hwait := (pauseAfter?_eq_some_iff.mp hpause).2
      omega

/-- Every attempt but the latest was repeated. -/
theorem Sent.repeated (h : Sent b timeout start (s :: l)) (hhad : Had answer (s :: l)) :
    ∀ j < l.length, (b.pauseAfter? j (heard timeout answer j).brought).isSome := by
  generalize hlog : s :: l = log at h
  induction h generalizing s l with
  | first => cases hlog; exact nofun
  | again h hpause htime ih =>
      cases hlog
      refine Nat.forall_lt_succ_right.mpr ⟨ih hhad.2 rfl, ?_⟩
      rw [hhad.2.heard, hpause]
      rfl

/-- All attempts are sent when their turns have come. -/
theorem Sent.times (h : Sent b timeout start l) (hhad : Had answer l) :
    l.reverse.map Sending.time =
      ((List.range l.length).map (departure b timeout answer)).map (start + ·) := by
  induction h with
  | first s => rfl
  | @again start s next l pause h hpause htime ih =>
      have hnext := (h.again hpause htime).time_eq hhad
      have hrange : List.range (next :: s :: l).length =
          List.range (s :: l).length ++ [(s :: l).length] := List.range_succ
      rw [List.reverse_cons, List.map_append, ih hhad.2, hrange, List.map_append, List.map_append,
        List.map_singleton, hnext]
      rfl

/-- **What was sent so far is a beginning of the course**, however the rest is answered. -/
theorem Sent.beginning (h : Sent b timeout start (s :: l)) (hhad : Had answer (s :: l)) :
    (s :: l).reverse.map Sending.time <+: (course b timeout answer).sent.map (start + ·) := by
  obtain ⟨left, hleft⟩ := Nat.exists_eq_add_of_le (le_repetitions (h.repeated hhad))
  rw [h.times hhad, sent_eq, hleft, Nat.add_right_comm, List.range_add, List.map_append,
    List.map_append]
  exact List.prefix_append _ _

/-- The course ends with an attempt that is not repeated. -/
theorem Sent.ends (h : Sent b timeout start (s :: l)) (hhad : Had answer (s :: l))
    (hlast : b.pauseAfter? l.length (s.reply.within timeout).brought = none) :
    let c := course b timeout answer
    (s :: l).reverse.map Sending.time = c.sent.map (start + ·) ∧
      (⟨s.time + (s.reply.within timeout).delay, (s.reply.within timeout).brought⟩ : Landing) =
        ⟨start + c.ended, c.brought⟩ := by
  have hn : repetitions b timeout answer = l.length :=
    repetitions_eq (h.repeated hhad) (hhad.heard ▸ hlast)
  intro c
  have hc : c = ⟨(List.range (l.length + 1)).map (departure b timeout answer),
      (s.reply.within timeout).brought,
      departure b timeout answer l.length + (s.reply.within timeout).delay⟩ := by
    rw [← hhad.heard, ← hn]
    exact course_eq b timeout answer
  refine ⟨by rw [h.times hhad, hc, List.length_cons], ?_⟩
  rw [hc, h.time_eq hhad, Nat.add_assoc]

/-- The latest attempt is answered before the course is over. -/
theorem Sent.answered_le (h : Sent b timeout start (s :: l)) (hhad : Had answer (s :: l)) :
    s.time + (s.reply.within timeout).delay ≤ start + (course b timeout answer).ended := by
  have hlater := departure_mono b timeout answer (le_repetitions (h.repeated hhad))
  rw [h.time_eq hhad, ← hhad.heard, ended_eq]
  omega

/-- The pause after an attempt that is repeated is over before the course is. -/
theorem Sent.paused_le (h : Sent b timeout start (s :: l)) (hhad : Had answer (s :: l))
    {pause : Nat} (hpause : b.pauseAfter? l.length (s.reply.within timeout).brought = some pause) :
    s.time + (s.reply.within timeout).delay + pause ≤ start + (course b timeout answer).ended := by
  have hrepeated : ∀ j < l.length + 1,
      (b.pauseAfter? j (heard timeout answer j).brought).isSome := by
    refine Nat.forall_lt_succ_right.mpr ⟨h.repeated hhad, ?_⟩
    rw [hhad.heard, hpause]
    rfl
  have hlater := departure_mono b timeout answer (le_repetitions hrepeated)
  have hwait := (pauseAfter?_eq_some_iff.mp hpause).2
  rw [departure, hhad.heard] at hlater
  rw [h.time_eq hhad, ended_eq]
  omega

end Course

namespace Timeline

variable {σ : Type} {t t' : Timeline σ} {flight : Nat} {setup : Setup} {past : History}

/-! ## Landings -/

/-- What a flight brings that lands when a job is done. -/
def landedBy? (t : Timeline σ) (flight : Nat) : Job → Option Landing
  | .answered n number brought =>
    if n = flight ∧ (t.session.fetches[flight]?).isSome ∧
        t.session.setup.options.backoff.pauseAfter? number brought = none then
      some ⟨t.now, brought⟩
    else none
  | _ => none

/-- The landing of a flight, if it has landed. -/
def landing? (t : Timeline σ) (flight : Nat) : List Move → Option Landing
  | [] => none
  | m :: h => (t.landing? flight h).or ((t.moved h).withJob (·.landedBy? flight) m)

/-! ## How a flight stands -/

/-- How a flight stands for which this was sent, and which has landed like that. -/
inductive Stands (setup : Setup) (flight : Nat) (t : Timeline σ) :
    List Sending → Option Landing → Prop
  | ready (hjobs : t.flightJobs flight = 0) : Stands setup flight t [] none
  /-- It waits for the answer to its latest attempt. -/
  | asking {start : Nat} {s : Sending} {l : List Sending}
      (hair : (t.session.fetches[flight]?).isSome) (hairborne : t.Airborne flight)
      (hsent : Course.Sent setup.options.backoff setup.options.timeout start (s :: l))
      (hjobs : t.flightJobs flight =
        {⟨s.time + (s.reply.within setup.options.timeout).delay,
          .answered flight l.length (s.reply.within setup.options.timeout).brought⟩}) :
      Stands setup flight t (s :: l) none
  /-- It waits for its next attempt. -/
  | pausing {start pause : Nat} {s : Sending} {l : List Sending}
      (hair : (t.session.fetches[flight]?).isSome) (hairborne : t.Airborne flight)
      (hsent : Course.Sent setup.options.backoff setup.options.timeout start (s :: l))
      (hpause : setup.options.backoff.pauseAfter? l.length
        (s.reply.within setup.options.timeout).brought = some pause)
      (hjobs : t.flightJobs flight =
        {⟨s.time + (s.reply.within setup.options.timeout).delay + pause,
          .attempt flight (l.length + 1)⟩}) :
      Stands setup flight t (s :: l) none
  /-- It is in the air no longer. -/
  | gone {start : Nat} {s : Sending} {l : List Sending} {landing : Option Landing}
      (hgone : t.session.fetches[flight]? = none)
      (hdeparted : flight < t.session.flights.nextFlight)
      (hsent : Course.Sent setup.options.backoff setup.options.timeout start (s :: l))
      (hlanded : ∀ x, landing = some x →
        setup.options.backoff.pauseAfter? l.length
            (s.reply.within setup.options.timeout).brought = none ∧
          x = ⟨s.time + (s.reply.within setup.options.timeout).delay,
            (s.reply.within setup.options.timeout).brought⟩) :
      Stands setup flight t (s :: l) landing

variable {l : List Sending} {landing : Option Landing}

/-- The setup of a timeline is that of its history. -/
theorem Reached.setup_eq (hnamed : setup.WellNamed) (h : t.Reached setup past) :
    t.session.setup = setup := by
  obtain ⟨since, hfollows⟩ := h
  rw [hfollows.session]
  exact (Situation.tidy_after hnamed _).1

/-- What is in the air has departed. -/
theorem Reached.departed (hnamed : setup.WellNamed) (h : t.Reached setup past)
    (hair : (t.session.fetches[flight]?).isSome) : flight < t.session.flights.nextFlight := by
  obtain ⟨since, hfollows⟩ := h
  obtain ⟨f, hf⟩ := Option.isSome_iff_exists.mp hair
  rw [hfollows.session] at hf ⊢
  exact ((Situation.tidy_after hnamed _).2.1.air flight f hf).1

/-- What has departed and is not in the air stays so. -/
theorem Follows.gone (hnamed : setup.WellNamed) (h : t.Follows (Situation.after setup past))
    (hreached : t'.Reached setup past) (hdeparted : flight < t.session.flights.nextFlight) :
    flight < t'.session.flights.nextFlight ∧
      (t.session.fetches[flight]? = none → t'.session.fetches[flight]? = none) := by
  obtain ⟨since, hfollows⟩ := hreached
  rw [h.session] at hdeparted ⊢
  rw [hfollows.session]
  refine ⟨Nat.lt_of_lt_of_le hdeparted
    (Situation.nextFlight_suffix hnamed (List.suffix_append since past)), fun hnone => ?_⟩
  cases hair : (Situation.after setup (since ++ past)).session.fetches[flight]? with
  | none => rfl
  | some f =>
      have hbefore :=
        Situation.air_suffix hnamed (List.suffix_append since past) hair hdeparted
      cases hnone.symm.trans hbefore

/-- What does not concern a flight leaves it as it stands. -/
theorem Stands.aside (hnamed : setup.WellNamed) (hfollows : t.Follows (Situation.after setup past))
    (hreached : t'.Reached setup past) (haside : t.Aside flight t')
    (h : Stands setup flight t l landing) : Stands setup flight t' l landing := by
  have hdeparted : (t.session.fetches[flight]?).isSome → flight < t'.session.flights.nextFlight :=
    fun hair => (hfollows.gone hnamed hreached
      (Reached.departed hnamed ⟨[], hfollows⟩ hair)).1
  cases h with
  | ready hjobs => exact .ready (haside.jobs.trans hjobs)
  | asking hair hairborne hsent hjobs =>
      cases hair' : t'.session.fetches[flight]? with
      | none => exact .gone hair' (hdeparted hair) hsent nofun
      | some f =>
          exact .asking (by rw [hair']; rfl) (haside.airborne hairborne) hsent
            (haside.jobs.trans hjobs)
  | pausing hair hairborne hsent hpause hjobs =>
      cases hair' : t'.session.fetches[flight]? with
      | none => exact .gone hair' (hdeparted hair) hsent nofun
      | some f =>
          exact .pausing (by rw [hair']; rfl) (haside.airborne hairborne) hsent hpause
            (haside.jobs.trans hjobs)
  | gone hgone hlt hsent hlanded =>
      obtain ⟨hlt', hstays⟩ := hfollows.gone hnamed hreached hlt
      exact .gone (hstays hgone) hlt' hsent hlanded

/-- One thing and more make one thing only if there is no more. -/
theorem eq_of_add_singleton {α : Type} {x y : α} {m : Multiset α} (h : {x} + m = {y}) :
    x = y ∧ m = 0 := by
  have hm : m = 0 := by
    have hcard := congrArg Multiset.card h
    rw [Multiset.card_add, Multiset.card_singleton, Multiset.card_singleton] at hcard
    exact Multiset.card_eq_zero.mp (by omega)
  rw [hm, Multiset.add_zero] at h
  exact ⟨Multiset.singleton_inj.mp h, hm⟩

/-- A timer is set for a job of the flight. -/
theorem flightJobs_after (t : Timeline σ) {delay : Nat} (hspan : Timer.span delay = delay)
    {job : Job} (hjob : job.isOf flight = true) :
    (t.after delay job).flightJobs flight = {⟨t.now + delay, job⟩} + t.flightJobs flight := by
  unfold flightJobs Timeline.after Agenda.after
  rw [Agenda.filter_schedule (Job.isOf flight), if_pos hjob, hspan,
    Nat.max_eq_right (Nat.le_add_right _ _)]
  rfl

/-- A flight that is not in the air sends nothing. -/
theorem attempt_of_gone (hgone : t.session.fetches[flight]? = none) (number : Nat) :
    t.attempt flight number = t ∧ t.sending? flight = none := by
  simp only [Timeline.attempt, sending?, hgone, Option.map_none, and_self]

/-- A flight in the air sends its request, and waits for the answer. -/
theorem attempt_of_air (hair : (t.session.fetches[flight]?).isSome) (number : Nat) :
    ∃ s, t.sending? flight = some s ∧ s.time = t.now ∧
      (t.attempt flight number).session = t.session ∧
      (t.attempt flight number).state.progress = t.state.progress ∧
      (t.attempt flight number).flightJobs flight =
        {⟨s.time + (s.reply.within t.session.setup.options.timeout).delay,
          .answered flight number (s.reply.within t.session.setup.options.timeout).brought⟩} +
          t.flightJobs flight := by
  obtain ⟨f, hf⟩ := Option.isSome_iff_exists.mp hair
  simp only [Timeline.attempt, sending?, hf, Option.map_some]
  exact ⟨_, rfl, rfl, rfl, rfl,
    flightJobs_after _ (Reply.span_within _ _) (by simp [Job.isOf])⟩

/-- A flight sends its request when the turn of its next attempt has come. -/
theorem Stands.asks (hnamed : setup.WellNamed) (hreached : t.Reached setup past)
    (hair : (t.session.fetches[flight]?).isSome) (hairborne : t.Airborne flight)
    (hjobs : t.flightJobs flight = 0) {start : Nat}
    (hsent : ∀ s : Sending, s.time = t.now →
      Course.Sent setup.options.backoff setup.options.timeout start (s :: l)) :
    Stands setup flight (t.attempt flight l.length) ((t.sending? flight).toList ++ l) none := by
  obtain ⟨s, hsending, htime, hsession, hkept, hwaits⟩ := attempt_of_air hair l.length
  rw [hreached.setup_eq hnamed, hjobs, Multiset.add_zero] at hwaits
  rw [hsending]
  refine .asking (hsession ▸ hair) ?_ (hsent s htime) hwaits
  unfold Airborne
  rw [hkept]
  exact hairborne

/-- A flight that is to take off sends its request, unless it has done so before. -/
theorem Stands.takeOff (hnamed : setup.WellNamed) (hreached : t.Reached setup past)
    (h : Stands setup flight t l landing) (attended : Bool) :
    Stands setup flight (t.takeOff flight attended) ((t.firstSending? flight).toList ++ l)
      landing := by
  cases hprogress : t.state.progress[flight]? with
  | some progress =>
      rw [takeOff_of_progress hprogress, firstSending?_of_progress hprogress]
      exact h
  | none =>
      let off := t.setProgress flight (.airborne attended)
      have hnew : t.state.progress.contains flight ≠ true := by
        rw [Std.ExtTreeMap.contains_eq_isSome_getElem?, hprogress]
        simp
      have htakes : t.takeOff flight attended = off.attempt flight 0 := if_neg hnew
      have hfirst : t.firstSending? flight = off.sending? flight := if_neg hnew
      have hgrounded : ¬ t.Airborne flight := by
        rintro ⟨attended, hairborne⟩
        cases hprogress.symm.trans hairborne
      rw [htakes, hfirst]
      cases h with
      | ready hjobs =>
          cases hf : off.session.fetches[flight]? with
          | none =>
              obtain ⟨hsame, hnone⟩ := attempt_of_gone hf 0
              rw [hsame, hnone]
              exact .ready hjobs
          | some f =>
              have hoff : off.Reached setup past := hreached.setProgress flight attended
              have hairborne : off.Airborne flight :=
                ⟨attended, Std.ExtTreeMap.getElem?_insert_self⟩
              have hsent : ∀ s : Sending, s.time = off.now →
                  Course.Sent setup.options.backoff setup.options.timeout off.now [s] :=
                fun s htime => htime ▸ .first s
              exact .asks hnamed hoff (Option.isSome_of_eq_some hf) hairborne hjobs hsent
      | asking _ hairborne | pausing _ hairborne => exact absurd hairborne hgrounded
      | gone hgone hlt hsent hlanded =>
          obtain ⟨hsame, hnone⟩ := attempt_of_gone (t := off) hgone 0
          rw [hsame, hnone]
          exact .gone hgone hlt hsent hlanded

section Jobs

variable {agenda : Agenda Job} {number : Nat} {brought : Except Failure Json}

/-- A job of the flight that is done was on the agenda. -/
theorem flightJobs_pop {job : Job} (hpop : t.agenda.pop? = some (job, agenda))
    (hjob : job.isOf flight = true) :
    let rest : Timeline σ := { t with agenda := agenda }
    t.flightJobs flight = {⟨rest.now, job⟩} + rest.flightJobs flight := by
  intro rest
  have hpopped : t.flightJobs flight = _ := Agenda.filter_pop (Job.isOf flight) hpop
  have hnow : rest.now = t.agenda.now := (Agenda.pending_pop hpop).2
  rw [hpopped, if_pos hjob, hnow]
  rfl

/-- No job is left of a flight whose one job is done. -/
theorem only_job {job : Job} {x : Alarm Job} (hpop : t.agenda.pop? = some (job, agenda))
    (hjob : job.isOf flight = true) (hjobs : t.flightJobs flight = {x}) :
    let rest : Timeline σ := { t with agenda := agenda }
    rest.now = x.due ∧ job = x.job ∧ rest.flightJobs flight = 0 := by
  intro rest
  obtain ⟨rfl, hnothing⟩ := eq_of_add_singleton ((flightJobs_pop hpop hjob).symm.trans hjobs)
  exact ⟨rfl, rfl, hnothing⟩

/-- The flight sends its request again when the pause is over. -/
theorem Stands.attempt (hnamed : setup.WellNamed) (hreached : t.Reached setup past)
    (hpop : t.agenda.pop? = some (.attempt flight number, agenda))
    (h : Stands setup flight t l landing) :
    let rest : Timeline σ := { t with agenda := agenda }
    Stands setup flight (rest.attempt flight number) ((rest.sending? flight).toList ++ l)
      landing := by
  intro rest
  have hjob : (Job.attempt flight number).isOf flight = true := by simp [Job.isOf]
  cases h with
  | ready hjobs => simp [flightJobs_pop hpop hjob] at hjobs
  | asking _ _ _ hjobs =>
      obtain ⟨-, hother, -⟩ := only_job hpop hjob hjobs
      cases hother
  | pausing hair hairborne hsent hpause hjobs =>
      obtain ⟨hdue, hnumber, hnothing⟩ := only_job hpop hjob hjobs
      cases hnumber
      have hrest : rest.Reached setup past := hreached.of_same rfl rfl rfl
      exact .asks hnamed hrest hair hairborne hnothing
        fun s htime => hsent.again hpause (htime.trans hdue)
  | gone hgone hlt hsent hlanded =>
      obtain ⟨hsame, hnone⟩ := attempt_of_gone (t := rest) hgone number
      rw [hsame, hnone]
      exact .gone hgone hlt hsent hlanded

/-- A flight that has landed is off the register, for good. -/
theorem Follows.land_gone (hnamed : setup.WellNamed)
    (h : t.Follows (Situation.after setup past)) {f : Fetch}
    (hair : t.session.fetches[flight]? = some f) (brought : Except Failure Json) :
    (t.land flight f brought).session.fetches[flight]? = none ∧
      flight < (t.land flight f brought).session.flights.nextFlight := by
  have hair' : (Situation.after setup past).session.fetches[flight]? = some f := h.session ▸ hair
  have hdeparted := ((Situation.tidy_after hnamed past).2.1.air flight f hair').1
  have hnext := (Situation.flights_step hnamed past t.now (.land flight brought)).1
  obtain ⟨since, hfollows⟩ := h.land hair brought
  have hsuffix := List.suffix_append since ((t.now, Event.land flight brought) :: past)
  have hlater := Situation.nextFlight_suffix hnamed hsuffix
  rw [hfollows.session]
  refine ⟨?_, by omega⟩
  cases hagain : (Situation.after setup _).session.fetches[flight]? with
  | none => rfl
  | some g =>
      have hback := Situation.air_suffix hnamed hsuffix hagain (by omega)
      rw [Situation.gone_land hair' t.now brought] at hback
      cases hback

/-- The flight pauses after its answer, or lands with it. -/
theorem Stands.answered (hnamed : setup.WellNamed)
    (hfollows : t.Follows (Situation.after setup past))
    (hpop : t.agenda.pop? = some (.answered flight number brought, agenda))
    (h : Stands setup flight t l landing) :
    let rest : Timeline σ := { t with agenda := agenda }
    Stands setup flight (rest.answered flight number brought) l
      (landing.or (rest.landedBy? flight (.answered flight number brought))) := by
  intro rest
  have hjob : (Job.answered flight number brought).isOf flight = true := by simp [Job.isOf]
  cases h with
  | ready hjobs => simp [flightJobs_pop hpop hjob] at hjobs
  | pausing _ _ _ _ hjobs =>
      obtain ⟨-, hother, -⟩ := only_job hpop hjob hjobs
      cases hother
  | gone hgone hlt hsent hlanded =>
      have hgone' : rest.session.fetches[flight]? = none := hgone
      simp only [Timeline.answered, landedBy?, hgone']
      rw [if_neg (by simp), Option.or_none]
      exact .gone hgone hlt hsent hlanded
  | @asking start s l hair hairborne hsent hjobs =>
      obtain ⟨hdue, hanswer, hnothing⟩ := only_job hpop hjob hjobs
      obtain ⟨-, rfl, rfl⟩ := Job.answered.inj hanswer
      have hsetup : rest.session.setup = setup := Reached.setup_eq (t := t) hnamed ⟨[], hfollows⟩
      obtain ⟨f, hf⟩ := Option.isSome_iff_exists.mp hair
      have hf' : rest.session.fetches[flight]? = some f := hf
      simp only [Timeline.answered, landedBy?, hf', hsetup, Option.none_or]
      cases hpause : setup.options.backoff.pauseAfter? l.length
          (s.reply.within setup.options.timeout).brought with
      | some pause =>
          rw [if_neg (by simp)]
          have hwaits := rest.flightJobs_after (Course.span_of_pauseAfter? hpause)
            (show (Job.attempt flight (l.length + 1)).isOf flight = true by simp [Job.isOf])
          rw [hnothing, Multiset.add_zero, hdue] at hwaits
          exact .pausing hair hairborne hsent hpause hwaits
      | none =>
          have hrest : rest.Follows (Situation.after setup past) := hfollows.of_same rfl rfl rfl
          obtain ⟨hgone, hlt⟩ := hrest.land_gone hnamed hf' _
          rw [if_pos (by simp)]
          refine .gone hgone hlt hsent fun x hx => ⟨hpause, ?_⟩
          rw [← Option.some.inj hx, hdue]

end Jobs

/-! ## Moves -/

/-- Only an answer to the flight lands it. -/
theorem landedBy?_of_other {job : Job} (hjob : job.isOf flight = false) :
    t.landedBy? flight job = none := by
  cases job with
  | answered n number brought =>
      have hn : n ≠ flight := by simpa [Job.isOf] using hjob
      exact if_neg fun h => hn h.1
  | _ => rfl

/-- **One job.** -/
theorem Stands.work (hnamed : setup.WellNamed) (hfollows : t.Follows (Situation.after setup past))
    {job : Job} {agenda : Agenda Job} (hpop : t.agenda.pop? = some (job, agenda))
    (h : Stands setup flight t l landing) :
    let rest : Timeline σ := { t with agenda := agenda }
    Stands setup flight (Timeline.work job rest)
      ((rest.sentBy? job).toList.filter (Sending.isOf flight) ++ l)
      (landing.or (rest.landedBy? flight job)) := by
  intro rest
  cases hjob : job.isOf flight with
  | true =>
      cases job with
      | attempt n number =>
          obtain rfl : n = flight := by simpa [Job.isOf] using hjob
          have hsent := h.attempt hnamed ⟨[], hfollows⟩ hpop
          have hlands : rest.landedBy? n (.attempt n number) = none := rfl
          rw [sentBy?, filter_sending, if_pos rfl, hlands, Option.or_none]
          exact hsent
      | answered n number brought =>
          obtain rfl : n = flight := by simpa [Job.isOf] using hjob
          exact h.answered hnamed hfollows hpop
      | _ => exact absurd hjob (by simp [Job.isOf])
  | false =>
      have hpopped : t.flightJobs flight = _ := Agenda.filter_pop (Job.isOf flight) hpop
      rw [hjob] at hpopped
      have htaken : t.Aside flight rest := ⟨(hpopped.trans (Multiset.zero_add _)).symm, id⟩
      have hrest : rest.Follows (Situation.after setup past) := hfollows.of_same rfl rfl rfl
      have hstands := h.aside hnamed hfollows ⟨[], hrest⟩ htaken
      rw [landedBy?_of_other hjob, Option.or_none]
      have hbesides : Besides setup past flight rest (Timeline.work job rest)
        ((rest.sentBy? job).toList.filter (Sending.isOf flight)) := besides_work ⟨[], hrest⟩ hjob
      revert hbesides
      generalize Timeline.work job rest = done
      generalize (rest.sentBy? job).toList.filter (Sending.isOf flight) = sent
      intro hbesides
      cases hbesides with
      | stays haside hreached => exact hstands.aside hnamed hrest hreached haside
      | takesOff attended haside hreached =>
          exact (hstands.aside hnamed hrest hreached haside).takeOff hnamed hreached attended

/-- What is asked for in brief does not concern a flight. -/
theorem aside_grant (t : Timeline σ) {d : Demand} (hbrief : d.isBrief = true) :
    t.Aside flight (t.grant d) := by
  have hspawn : ∀ (name : String) (job : Nat → Job), (∀ task, (job task).isOf flight = false) →
      t.Aside flight (t.spawn name job) := fun name job hjob =>
    (t.aside_push (hjob t.state.nextTask)).trans (.of_same rfl rfl)
  cases d with
  | subscribe name args =>
      simp only [Timeline.grant]
      split
      · exact t.aside_become _
      · exact .refl flight t
  | unsubscribe | refetch | invalidate | collect | reset | standIn => exact t.aside_become _
  | startQuery name endpoint args =>
      exact hspawn name (fun task => .query task name endpoint args) fun _ => rfl
  | startWrite name m args edits =>
      exact hspawn name (fun task => .mutate task name m args edits) fun _ => rfl
  | cancel name =>
      simp only [Timeline.grant, Timeline.cancel]
      split
      · exact .refl flight t
      · exact (t.aside_push rfl).trans (.of_same rfl rfl)
  | pass duration => cases hbrief
  | awaitChange patience v => cases hbrief
  | awaitOutcome alarms => cases hbrief

/-- The clock may go on. -/
theorem aside_wait (horderly : t.Orderly) (limit : Nat) :
    t.Aside flight (t.move (.wait limit)) := by
  have hsame : ∀ {agenda : Agenda Job}, agenda.pending = t.agenda.pending →
      t.Aside flight { t with agenda := agenda } := by
    intro agenda hpending
    refine ⟨?_, id⟩
    unfold flightJobs
    rw [hpending]
  cases hpop : t.agenda.pop? with
  | some next =>
      simp only [Timeline.move, hpop]
      exact .refl flight t
  | none =>
      have hready := Agenda.ready_of_pop hpop
      cases hwake : t.agenda.wake? limit with
      | some agenda =>
          rw [move_wake hpop hwake]
          exact hsame (horderly.prompt.wake hready hwake).2.1
      | none =>
          rw [move_rest hpop hwake]
          exact hsame (horderly.prompt.rest hready hwake).2.1

/-- **One move.** -/
theorem Stands.move (hnamed : setup.WellNamed) (horderly : t.Orderly)
    (hreached : t.Reached setup past) (h : Stands setup flight t l landing) (m : Move) :
    Stands setup flight (t.move m) ((t.withJob sentBy? m).toList.filter (Sending.isOf flight) ++ l)
      (landing.or (t.withJob (·.landedBy? flight) m)) := by
  obtain ⟨since, hfollows⟩ := hreached
  have hmoved : (t.move m).Reached setup (since ++ past) := Reached.move ⟨[], hfollows⟩ m
  cases m with
  | ask d hbrief =>
      simp only [withJob, Option.toList_none, List.filter_nil, List.nil_append, Option.or_none]
      exact h.aside hnamed hfollows hmoved (t.aside_grant hbrief)
  | wait limit =>
      simp only [withJob, Option.toList_none, List.filter_nil, List.nil_append, Option.or_none]
      exact h.aside hnamed hfollows hmoved (aside_wait horderly limit)
  | work =>
      cases hpop : t.agenda.pop? with
      | none =>
          simp only [Timeline.move, withJob, hpop, Option.toList_none, List.filter_nil,
            List.nil_append, Option.or_none]
          exact h
      | some next =>
          simp only [Timeline.move, withJob, hpop]
          exact h.work hnamed hfollows hpop

/-- What has come of a flight is what a course says, which began at this time. -/
structure KeepsTo (c : Course) (start : Nat) (flight : Nat) (t : Timeline σ) (l : List Sending)
    (landing : Option Landing) : Prop where
  /-- Its attempts were sent at the times of the course, as far as it has come. -/
  sent : l.reverse.map Sending.time <+: c.sent.map (start + ·)
  /-- When it has landed all of them were sent, and it has brought what the course brings, when that
  ends. -/
  landed : ∀ x, landing = some x →
    l.reverse.map Sending.time = c.sent.map (start + ·) ∧ x = ⟨start + c.ended, c.brought⟩
  /-- As long as it is in the air the course is not over, once all that is due has been done. -/
  inTime : (t.session.fetches[flight]?).isSome →
    landing = none ∧ (t.CaughtUp → t.now < start + c.ended)

/-- A flight lands only when something was sent for it. -/
theorem Stands.landing_eq_none (h : Stands setup flight t l landing) (hl : l = []) :
    landing = none := by
  cases h with
  | ready => rfl
  | _ => cases hl

/-- A flight for which something was sent keeps to the course of its answers. -/
theorem Stands.keepsTo (h : Stands setup flight t l landing) (hl : l ≠ []) :
    ∃ start, ∀ answer, Course.Had answer l →
      KeepsTo (course setup.options.backoff setup.options.timeout answer) start flight t l
        landing := by
  have hdue : ∀ {x : Alarm Job}, t.flightJobs flight = {x} → t.CaughtUp → t.now < x.due := by
    intro x hjobs hcaught
    refine hcaught x (Multiset.mem_of_mem_filter (p := fun x => x.job.isOf flight = true) ?_)
    have hmem : x ∈ t.flightJobs flight := by
      rw [hjobs]
      exact Multiset.mem_singleton_self x
    exact hmem
  cases h with
  | ready => exact absurd rfl hl
  | @asking start s l hair _ hsent hjobs =>
      refine ⟨start, fun answer hhad => ⟨hsent.beginning hhad, nofun, fun _ => ⟨rfl, ?_⟩⟩⟩
      exact fun hcaught => Nat.lt_of_lt_of_le (hdue hjobs hcaught) (hsent.answered_le hhad)
  | @pausing start pause s l hair _ hsent hpause hjobs =>
      refine ⟨start, fun answer hhad => ⟨hsent.beginning hhad, nofun, fun _ => ⟨rfl, ?_⟩⟩⟩
      exact fun hcaught => Nat.lt_of_lt_of_le (hdue hjobs hcaught) (hsent.paused_le hhad hpause)
  | @gone start s l _ hgone _ hsent hlanded =>
      refine ⟨start, fun answer hhad => ⟨hsent.beginning hhad, fun x hx => ?_, fun hair => ?_⟩⟩
      · obtain ⟨hlast, rfl⟩ := hlanded x hx
        exact hsent.ends hhad hlast
      · rw [hgone] at hair
        cases hair

section Runs

variable (setup) (answer : Request → σ → Reply × σ) (server : σ) (h : List Move) (flight : Nat)

/-- How a flight stands after all moves. -/
theorem stands_moved (hnamed : setup.WellNamed) :
    let t := start setup answer server
    Stands setup flight (t.moved h) (t.sent flight h) (t.landing? flight h) := by
  intro t
  induction h with
  | nil => exact .ready rfl
  | cons m h ih =>
      unfold sent sendings
      rw [List.filter_append]
      exact ih.move hnamed (orderly_moved (orderly_start setup answer server) h)
        (reached_moved setup answer server h) m

/-- **Flights keep to their courses.**  However a timeline's moves fall and its server answers, for
every flight either nothing has been sent yet, and it has not landed, or its attempts so far, its
landing and the time it takes are those of `course`, for the answers that its attempts had and
whatever answers are to come. -/
theorem flights_keep_to_courses (hnamed : setup.WellNamed) :
    let t := start setup answer server
    (t.sent flight h = [] → t.landing? flight h = none) ∧
      (t.sent flight h ≠ [] → ∃ start, ∀ answers, Course.Had answers (t.sent flight h) →
        KeepsTo (course setup.options.backoff setup.options.timeout answers) start flight
          (t.moved h) (t.sent flight h) (t.landing? flight h)) := by
  intro t
  have hstands := stands_moved setup answer server h flight hnamed
  exact ⟨hstands.landing_eq_none, hstands.keepsTo⟩

end Runs

end Timeline

end QueryCache
