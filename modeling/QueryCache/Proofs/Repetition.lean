import QueryCache.Timeline.Reply

/-!
# How often a request is repeated, and when

The pause after an attempt is held to three bounds, the factor's, the longest duration's and that of
the policy.  The first two do not show as long as they lie above the third, so the pause is the
formula in exact numbers (`Backoff.pause_exact`).

A request is repeated as often as its leading failures allow, and no oftener than the policy does.
That number says all about its course (`course_eq`): when each attempt is sent, what the last one
brings, and when.  The number of the attempt is counted in thirty-two bits, and never overflows: by
rules under which a full counter stops everything, the course comes to its end (`carries_iff`).

A pause lasts as long as a timer runs that is set for it.  A timer counts whole milliseconds, and
thirty years at most, so a longer pause is cut short (`pause_cut_short`).

Flights on a timeline keep to their courses, whatever else goes on there
(`Timeline.flights_keep_to_courses`).
-/

namespace QueryCache

/-! ## Pauses -/

namespace Backoff

variable {b : Backoff}

/-- The factor does not fall from one attempt to a later one. -/
theorem factor_mono (hmultiplier : 1 ≤ b.multiplier) {attempt later : Nat} (h : attempt ≤ later) :
    b.factor attempt ≤ b.factor later := by
  have hpow : b.multiplier.pow attempt ≤ b.multiplier.pow later :=
    Nat.pow_le_pow_right hmultiplier h
  rw [factor_eq, factor_eq]
  omega

/-- **The pause is the formula.**  It is `base * multiplier ^ attempt` in exact numbers, cut to the
longest pause, for every policy whose base is zero or whose longest pause is within reach of the
largest factor.  Whatever the policy, no pause is longer than the longest, and unless the multiplier
is zero none is shorter than an earlier one. -/
theorem pause_exact (b : Backoff) (hduration : b.longest ≤ durationMax) (attempt : Nat) :
    (b.base = 0 ∨ b.longest ≤ b.base * factorMax →
      b.pause attempt = min b.longest (b.base * b.multiplier.pow attempt)) ∧
    b.pause attempt ≤ b.longest ∧
    (1 ≤ b.multiplier → ∀ later, attempt ≤ later → b.pause attempt ≤ b.pause later) := by
  refine ⟨fun hreach => ?_, b.pause_le attempt, fun hmultiplier later hlater => ?_⟩
  · have hfactor : b.base * b.factor attempt =
        min (b.base * b.multiplier.pow attempt) (b.base * factorMax) := by
      rw [factor_eq, Nat.mul_min_mul_left]
    rcases hreach with hzero | hreach
    · simp [pause, hzero]
    · unfold pause
      omega
  · have hproduct : b.base * b.factor attempt ≤ b.base * b.factor later :=
      Nat.mul_le_mul_left _ (factor_mono hmultiplier hlater)
    unfold pause
    omega

/-- A factor that is held to its bound, and a longest pause just within its reach. -/
theorem pause_exact_held :
    let b : Backoff := ⟨3, 7, 3, 7 * factorMax⟩
    b.longest ≤ durationMax ∧ b.longest ≤ b.base * factorMax ∧ 1 ≤ b.multiplier ∧
      b.pause 20 = min b.longest (7 * Nat.pow 3 20) ∧ b.pause 0xFFFFFFFF = b.longest ∧
      b.pause 20 ≤ b.pause 0xFFFFFFFF := by
  intro b
  have hexact := fun attempt => b.pause_exact (by decide) attempt
  refine ⟨by decide, by decide, by decide, (hexact 20).1 (.inr (by decide)), ?_,
    (hexact 20).2.2 (by decide) _ (by decide)⟩
  decide

end Backoff

/-! ## Courses -/

/-- Whether a reply is a failure that another attempt may overcome. -/
def Reply.isRetryable (r : Reply) : Bool :=
  match r.brought with
  | .ok _ => false
  | .error f => f.isRetryable

/-- What is waited for is waited for by a timer. -/
theorem Reply.span_within (r : Reply) (timeout : Nat) :
    Timer.span (r.within timeout).delay = (r.within timeout).delay := by
  unfold Reply.within Timer.span
  simp only
  split
  · exact Nat.min_eq_left (Nat.min_le_right _ _)
  · rename_i hlate
    change min timeout Timer.longest = timeout
    omega

namespace Course

variable (b : Backoff) (timeout : Nat) (answer : Nat → Reply)

/-- What is heard of the attempt of that number. -/
def heard (attempt : Nat) : Reply := (answer attempt).within timeout

/-- How long the timer runs that is set for the pause after an attempt. -/
def wait (attempt : Nat) : Nat := Backoff.pauseMillis (b.pause attempt)

/-- When the attempt of that number is sent, if there is one. -/
def departure : Nat → Nat
  | 0 => 0
  | attempt + 1 => departure attempt + (heard timeout answer attempt).delay + wait b attempt

/-- How often a request is repeated: once for every failure that another attempt may overcome, from
the first attempt on and up to the first that is none, as far as the policy allows. -/
def repetitions : Nat :=
  ((List.range b.retries).takeWhile fun attempt => (heard timeout answer attempt).isRetryable).length

/-- A request that is carried to its end, by rules.  What is given is the number of the attempt,
counted in thirty-two bits, and when it is sent.  There is no rule for a counter that is full. -/
inductive Carries : UInt32 → Nat → Course → Prop
  | succeeds {attempt now value} (hheard : (heard timeout answer attempt.toNat).brought = .ok value) :
      Carries attempt now ⟨[now], .ok value, now + (heard timeout answer attempt.toNat).delay⟩
  | givesUp {attempt now f} (hheard : (heard timeout answer attempt.toNat).brought = .error f)
      (hstop : b.retriesAfter attempt.toNat f = false) :
      Carries attempt now ⟨[now], .error f, now + (heard timeout answer attempt.toNat).delay⟩
  | repeats {attempt now f rest} (hheard : (heard timeout answer attempt.toNat).brought = .error f)
      (hgo : b.retriesAfter attempt.toNat f = true) (hroom : attempt.toNat + 1 < UInt32.size)
      (hrest : Carries (attempt + 1)
        (now + (heard timeout answer attempt.toNat).delay + wait b attempt.toNat) rest) :
      Carries attempt now { rest with sent := now :: rest.sent }

variable {b timeout answer}

/-- As long as repetitions are left, the failure alone decides. -/
theorem retriesAfter_eq {attempt left : Nat} {f : Failure} (hleft : attempt + (left + 1) = b.retries)
    (h : (heard timeout answer attempt).brought = .error f) :
    b.retriesAfter attempt f = (heard timeout answer attempt).isRetryable := by
  have hbudget : attempt < b.retries := by omega
  simp [Backoff.retriesAfter, Reply.isRetryable, h, hbudget]

/-- There is no pause after an attempt that succeeds, nor after one whose failure stands. -/
theorem pauseAfter?_of_ends {attempt : Nat} {brought : Except Failure Json}
    (hends : ∀ f, brought = .error f → b.retriesAfter attempt f = false) :
    b.pauseAfter? attempt brought = none := by
  cases brought with
  | ok value => rfl
  | error f => simp [Backoff.pauseAfter?, Backoff.next?, hends f rfl]

/-- A failure that is to be repeated is repeated after the pause. -/
theorem pauseAfter?_of_retries {attempt : Nat} {f : Failure} (h : b.retriesAfter attempt f = true) :
    b.pauseAfter? attempt (.error f) = some (wait b attempt) := by
  simp [Backoff.pauseAfter?, Backoff.next?, h, wait]

/-- What is paused is paused by a timer. -/
theorem span_of_pauseAfter? {attempt pause : Nat} {brought : Except Failure Json}
    (h : b.pauseAfter? attempt brought = some pause) : Timer.span pause = pause := by
  cases brought with
  | ok value => cases h
  | error f =>
      obtain ⟨nanos, -, rfl⟩ := Option.map_eq_some_iff.mp h
      exact Nat.min_eq_left (Nat.min_le_right _ _)

/-- A course ends with an attempt that succeeds, and with one whose failure stands. -/
theorem courseFrom_ends {attempt : Nat}
    (hends : ∀ f, (heard timeout answer attempt).brought = .error f →
      b.retriesAfter attempt f = false) (left now : Nat) :
    courseFrom b timeout answer left attempt now =
      ⟨[now], (heard timeout answer attempt).brought,
        now + (heard timeout answer attempt).delay⟩ := by
  cases left with
  | zero => rfl
  | succ left =>
      have hpause := pauseAfter?_of_ends hends
      unfold heard at hpause ⊢
      simp only [courseFrom, hpause]

/-- A course goes on after a failure that is followed by another attempt. -/
theorem courseFrom_repeats {attempt : Nat} {f : Failure}
    (h : (heard timeout answer attempt).brought = .error f)
    (hgo : b.retriesAfter attempt f = true) (left now : Nat) :
    courseFrom b timeout answer (left + 1) attempt now =
      let rest := courseFrom b timeout answer left (attempt + 1)
        (now + (heard timeout answer attempt).delay + wait b attempt)
      { rest with sent := now :: rest.sent } := by
  have hpause := h ▸ pauseAfter?_of_retries hgo
  unfold heard at hpause ⊢
  simp only [courseFrom, hpause]

/-- The rest of a course, from an attempt that is sent when its turn has come. -/
theorem courseFrom_eq {attempt left : Nat} (hleft : attempt + left = b.retries) :
    let n := ((List.range' attempt left).takeWhile fun i => (heard timeout answer i).isRetryable).length
    courseFrom b timeout answer left attempt (departure b timeout answer attempt) =
      ⟨(List.range' attempt (n + 1)).map (departure b timeout answer),
        (heard timeout answer (attempt + n)).brought,
        departure b timeout answer (attempt + n) + (heard timeout answer (attempt + n)).delay⟩ := by
  induction left generalizing attempt with
  | zero => rfl
  | succ left ih =>
      intro n
      cases hretry : (heard timeout answer attempt).isRetryable with
      | false =>
          have hn : n = 0 := by simp [n, List.range'_succ, hretry]
          rw [courseFrom_ends fun f hf => (retriesAfter_eq hleft hf).trans hretry, hn]
          rfl
      | true =>
          have hn : n = ((List.range' (attempt + 1) left).takeWhile
              fun i => (heard timeout answer i).isRetryable).length + 1 := by
            simp [n, List.range'_succ, hretry]
          obtain ⟨f, hf⟩ : ∃ f, (heard timeout answer attempt).brought = .error f := by
            cases hbrought : (heard timeout answer attempt).brought with
            | ok value => simp [Reply.isRetryable, hbrought] at hretry
            | error f => exact ⟨f, rfl⟩
          rw [courseFrom_repeats hf ((retriesAfter_eq hleft hf).trans hretry), ← departure,
            ih (by omega), hn]
          simp only [List.range'_succ (n := _ + 1), List.map_cons, Nat.add_assoc, Nat.add_comm 1]

/-- **The course of a request.** -/
theorem course_eq (b : Backoff) (timeout : Nat) (answer : Nat → Reply) :
    let n := repetitions b timeout answer
    course b timeout answer =
      ⟨(List.range (n + 1)).map (departure b timeout answer), (heard timeout answer n).brought,
        departure b timeout answer n + (heard timeout answer n).delay⟩ := by
  have h := @courseFrom_eq b timeout answer 0 b.retries (Nat.zero_add b.retries)
  simp only [Nat.zero_add, ← List.range_eq_range'] at h
  exact h

/-- When the attempts of a course are sent. -/
theorem sent_eq (b : Backoff) (timeout : Nat) (answer : Nat → Reply) :
    (course b timeout answer).sent =
      (List.range (repetitions b timeout answer + 1)).map (departure b timeout answer) :=
  congrArg Course.sent (course_eq b timeout answer)

/-- When a course is over. -/
theorem ended_eq (b : Backoff) (timeout : Nat) (answer : Nat → Reply) :
    (course b timeout answer).ended =
      departure b timeout answer (repetitions b timeout answer) +
        (heard timeout answer (repetitions b timeout answer)).delay :=
  congrArg Course.ended (course_eq b timeout answer)

/-- An attempt is repeated as long as repetitions are left and it brings a failure that another one may
overcome. -/
theorem pauseAfter?_eq_some_iff {attempt pause : Nat} {r : Reply} :
    b.pauseAfter? attempt r.brought = some pause ↔
      (attempt < b.retries ∧ r.isRetryable = true) ∧ wait b attempt = pause := by
  cases hbrought : r.brought with
  | ok value => simp [Backoff.pauseAfter?, Reply.isRetryable, hbrought]
  | error f =>
      simp [Backoff.pauseAfter?, Backoff.next?, Backoff.retriesAfter, Reply.isRetryable, hbrought,
        wait]

/-- Of the attempts that the policy allows, the first so many are repeated. -/
theorem takeWhile_repeated {k : Nat}
    (h : ∀ j < k, (b.pauseAfter? j (heard timeout answer j).brought).isSome) :
    k ≤ b.retries ∧ ((List.range b.retries).takeWhile fun j => (heard timeout answer j).isRetryable) =
      List.range k ++ ((List.range (b.retries - k)).map (k + ·)).takeWhile
        fun j => (heard timeout answer j).isRetryable := by
  have hrepeated : ∀ j < k, j < b.retries ∧ (heard timeout answer j).isRetryable = true := by
    intro j hj
    obtain ⟨pause, hpause⟩ := Option.isSome_iff_exists.mp (h j hj)
    exact (pauseAfter?_eq_some_iff.mp hpause).1
  have hbudget : k ≤ b.retries := by
    cases k with
    | zero => exact Nat.zero_le _
    | succ k => exact (hrepeated k (Nat.lt_succ_self k)).1
  refine ⟨hbudget, ?_⟩
  have hsplit : List.range b.retries =
      List.range k ++ (List.range (b.retries - k)).map (k + ·) := by
    rw [← List.range_add, Nat.add_sub_cancel' hbudget]
  rw [hsplit]
  exact List.takeWhile_append_of_pos fun j hj => (hrepeated j (List.mem_range.mp hj)).2

/-- A request is repeated at least as often as its first attempts are. -/
theorem le_repetitions {k : Nat}
    (h : ∀ j < k, (b.pauseAfter? j (heard timeout answer j).brought).isSome) :
    k ≤ repetitions b timeout answer := by
  rw [repetitions, (takeWhile_repeated h).2, List.length_append, List.length_range]
  exact Nat.le_add_right _ _

/-- A request is repeated until an attempt is not. -/
theorem repetitions_eq {k : Nat}
    (h : ∀ j < k, (b.pauseAfter? j (heard timeout answer j).brought).isSome)
    (hlast : b.pauseAfter? k (heard timeout answer k).brought = none) :
    repetitions b timeout answer = k := by
  obtain ⟨hbudget, htaken⟩ := takeWhile_repeated h
  have hrest : ((List.range (b.retries - k)).map (k + ·)).takeWhile
      (fun j => (heard timeout answer j).isRetryable) = [] := by
    cases hleft : b.retries - k with
    | zero => rfl
    | succ left =>
        have hstands : (heard timeout answer k).isRetryable = false := by
          refine Bool.eq_false_iff.mpr fun hretry => ?_
          have hpause : b.pauseAfter? k (heard timeout answer k).brought = some (wait b k) :=
            pauseAfter?_eq_some_iff.mpr ⟨⟨by omega, hretry⟩, rfl⟩
          rw [hlast] at hpause
          cases hpause
        rw [List.range_succ_eq_map, List.map_cons, Nat.add_zero,
          List.takeWhile_cons_of_neg (by simp [hstands])]
  rw [repetitions, htaken, hrest, List.append_nil, List.length_range]

/-- An attempt is answered no later than a later one. -/
theorem departure_mono (b : Backoff) (timeout : Nat) (answer : Nat → Reply) {k n : Nat}
    (h : k ≤ n) : departure b timeout answer k + (heard timeout answer k).delay ≤
      departure b timeout answer n + (heard timeout answer n).delay := by
  induction h with
  | refl => exact Nat.le_refl _
  | step _ ih =>
      rw [departure]
      omega

/-- By the rules a request is carried to the end of its course, and to no other. -/
theorem carries_iff {attempt : UInt32} {left : Nat} (hleft : attempt.toNat + left = b.retries)
    (hbudget : b.retries < UInt32.size) {now : Nat} {c : Course} :
    Carries b timeout answer attempt now c ↔
      c = courseFrom b timeout answer left attempt.toNat now := by
  induction left generalizing attempt now c with
  | zero =>
      have hlast : ∀ f, b.retriesAfter attempt.toNat f = false := by
        intro f
        simp [Backoff.retriesAfter, ← hleft]
      rw [courseFrom_ends fun f _ => hlast f]
      constructor
      · intro hcarries
        cases hcarries with
        | succeeds hheard => rw [hheard]
        | givesUp hheard => rw [hheard]
        | repeats hheard hgo => exact absurd hgo (by simp [hlast])
      · rintro rfl
        cases hheard : (heard timeout answer attempt.toNat).brought with
        | ok value => exact .succeeds hheard
        | error f => exact .givesUp hheard (hlast f)
  | succ left ih =>
      have hroom : attempt.toNat + 1 < UInt32.size := by omega
      have hnext : (attempt + 1).toNat = attempt.toNat + 1 := by
        rw [UInt32.toNat_add]
        exact Nat.mod_eq_of_lt hroom
      constructor
      · intro hcarries
        cases hcarries with
        | succeeds hheard =>
            rw [courseFrom_ends fun f hf => by simp [hheard] at hf, hheard]
        | givesUp hheard hstop =>
            rw [courseFrom_ends fun f hf => by cases hheard.symm.trans hf; exact hstop, hheard]
        | repeats hheard hgo _ hrest =>
            rw [(ih (by omega)).mp hrest, hnext, courseFrom_repeats hheard hgo]
      · rintro rfl
        cases hheard : (heard timeout answer attempt.toNat).brought with
        | ok value =>
            rw [courseFrom_ends fun f hf => by simp [hheard] at hf, hheard]
            exact .succeeds hheard
        | error f =>
            cases hgo : b.retriesAfter attempt.toNat f with
            | false =>
                rw [courseFrom_ends fun f' hf => by cases hheard.symm.trans hf; exact hgo, hheard]
                exact .givesUp hheard hgo
            | true =>
                rw [courseFrom_repeats hheard hgo]
                refine .repeats hheard hgo hroom ((ih (by omega)).mpr ?_)
                rw [hnext]

/-- A timer that is set for a whole number of milliseconds runs for just so long, up to thirty
years. -/
theorem wait_of_millis {attempt millis : Nat} (h : b.pause attempt = millis * nanosPerMilli)
    (hspan : millis ≤ Timer.longest) : wait b attempt = millis := by
  have hround : (millis * nanosPerMilli + (nanosPerMilli - 1)) / nanosPerMilli = millis := by
    unfold nanosPerMilli
    omega
  rw [wait, Backoff.pauseMillis, h, hround, Timer.span_of_le hspan]

/-- An answer that takes longer than the request waits is a failure when the time is up. -/
theorem heard_of_late {attempt : Nat} (h : timeout < Timer.span (answer attempt).delay) :
    heard timeout answer attempt = ⟨.error (.timedOut timeout), timeout⟩ := by
  simp [heard, Reply.within, Nat.not_le.mpr h]

/-- A reply that comes in time is heard as it is. -/
theorem heard_of_timely {attempt : Nat} (h : Timer.span (answer attempt).delay ≤ timeout) :
    heard timeout answer attempt = ⟨(answer attempt).brought, Timer.span (answer attempt).delay⟩ := by
  simp [heard, Reply.within, h]

/-- **The budget is kept.**  Let `n` be the number of leading failures that another attempt may
overcome, held to the number of repetitions that the policy allows.  Then the request is sent `n + 1`
times and the outcome is that of the last attempt.  The next attempt is sent when the failure of the
one before is known and the timer has run that is set for the pause: it runs for the pause itself if
that is a whole number of milliseconds and no more than thirty years.  An attempt that is not
answered in time is a failure when its time is up, and one that another attempt may overcome.  The
number of the attempt never overflows thirty-two bits. -/
theorem budget_kept (b : Backoff) (hbudget : b.retries < UInt32.size) (timeout : Nat)
    (answer : Nat → Reply) :
    let n := repetitions b timeout answer
    course b timeout answer =
      ⟨(List.range (n + 1)).map (departure b timeout answer), (heard timeout answer n).brought,
        departure b timeout answer n + (heard timeout answer n).delay⟩ ∧
    (∀ attempt millis, b.pause attempt = millis * nanosPerMilli → millis ≤ Timer.longest →
      wait b attempt = millis) ∧
    (∀ attempt, Timer.span (answer attempt).delay ≤ timeout →
      heard timeout answer attempt =
        ⟨(answer attempt).brought, Timer.span (answer attempt).delay⟩) ∧
    (∀ attempt, timeout < Timer.span (answer attempt).delay →
      heard timeout answer attempt = ⟨.error (.timedOut timeout), timeout⟩ ∧
      (heard timeout answer attempt).isRetryable = true) ∧
    ∀ c, Carries b timeout answer 0 0 c ↔ c = course b timeout answer := by
  refine ⟨course_eq b timeout answer, fun attempt millis => wait_of_millis,
    fun attempt => heard_of_timely, fun attempt hlate => ⟨heard_of_late hlate, ?_⟩,
    fun c => carries_iff (Nat.zero_add b.retries) hbudget⟩
  rw [heard_of_late hlate]
  rfl

/-- Two refusals, an answer that comes too late, and the success that follows. -/
def troubled : Nat → Reply
  | 0 => ⟨.error (.refused 503 none), 20⟩
  | 1 => ⟨.error (.refused 429 none), 0⟩
  | 2 => ⟨.ok .null, 16000⟩
  | _ => ⟨.ok (.bool true), 5⟩

/-- The standard policy outlasts them. -/
theorem budget_kept_troubled :
    Backoff.standard.retries < UInt32.size ∧ repetitions .standard 15000 troubled = 3 ∧
    course .standard 15000 troubled = ⟨[0, 1020, 3020, 22020], .ok (.bool true), 22025⟩ ∧
    wait .standard 2 = 4000 ∧
    heard 15000 troubled 2 = ⟨.error (.timedOut 15000), 15000⟩ ∧
    heard 15000 troubled 3 = ⟨.ok (.bool true), 5⟩ := by
  obtain ⟨hcourse, hwait, htimely, hlate, -⟩ := budget_kept .standard (by decide) 15000 troubled
  have hn : repetitions .standard 15000 troubled = 3 := by decide
  refine ⟨by decide, hn, hcourse.trans ?_, hwait 2 4000 (by decide) (by decide),
    (hlate 2 (by decide)).1, htimely 3 (by decide)⟩
  rw [hn]
  rfl

/-- A pause of thirty years and a millisecond is cut short by that millisecond, and a pause of a
nanosecond lasts for a millisecond. -/
theorem pause_cut_short :
    let pausing (nanos : Nat) : Backoff := ⟨1, nanos, 1, nanos⟩
    let answer : Nat → Reply := fun attempt =>
      if attempt = 0 then ⟨.error (.refused 503 none), 0⟩ else ⟨.ok (.bool true), 0⟩
    (pausing (946080000001 * nanosPerMilli)).pause 0 = 946080000001 * nanosPerMilli ∧
    (course (pausing (946080000001 * nanosPerMilli)) 15000 answer).sent = [0, 946080000000] ∧
    (pausing 1).pause 0 = 1 ∧ (course (pausing 1) 15000 answer).sent = [0, 1] := by
  decide

end Course

end QueryCache
