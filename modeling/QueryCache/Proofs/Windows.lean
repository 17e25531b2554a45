import QueryCache.Proofs.Airborne
/-!
# Windows in which a fetch is shared

A window is open in the pool exactly if the moves say so (`window?_iff_open`): the pool keeps no
window of a fetch that has landed, and loses none before.  With that and the flights in the air
follows how fetches are shared (`Shares`).

Clearing the pool leaves the job of a flight where it is.  It lands some time, and closes a window
only if that is its own, for no flight is ever given the number of another.
-/

namespace QueryCache.Pool

variable {h : List Move} {k : Key} {n : Nat} {m : Move}

/-- The window of a key is its open flight. -/
theorem window?_iff_open (h : List Move) (k : Key) (n : Nat) :
    (after h).state.flights.window? k = some n ↔ Open k n h := by
  induction h with
  | nil =>
      refine ⟨fun hwindow => ?_, fun hopen => by cases hopen⟩
      simp [after, start, Flights.empty, Flights.window?] at hwindow
  | cons m h ih =>
      rw [open_cons, ← ih]
      cases m with
      | fetch k' name reply =>
          cases hwindow : (after h).state.flights.window? k' with
          | some n' =>
              have hflights : (after (.fetch k' name reply :: h)).state.flights =
                  (after h).state.flights := by
                simp only [after, move, fetch_of_window hwindow, enter]
              rw [hflights]
              simp only [settles]
              constructor
              · exact fun hn => Or.inr ⟨hn, by simp, by simp⟩
              · rintro (⟨_, _, hm, hnone, -⟩ | ⟨hn, -, -⟩)
                · cases hm
                  cases hwindow.symm.trans hnone
                · exact hn
          | none =>
              simp only [after, move, fetch_of_none hwindow, begin, enter, settles]
              rw [Flights.window?_board]
              by_cases hk : k = k'
              · subst hk
                simp [hwindow]
              · simp [hk, Ne.symm hk]
      | fetchAlone name reply =>
          simp [after, move, fetchAlone, begin, enter, settles, Flights.depart, Flights.window?]
      | clear => simp [after, move, Pool.clear, Flights.forgetAll, Flights.window?]
      | wait limit => simp [state_wait, settles]
      | work =>
          cases hsettles : (after h).settles .work with
          | none => simp [state_work hsettles]
          | some landed =>
              obtain ⟨n', brought⟩ := landed
              obtain ⟨-, key, agenda, hpop⟩ := pop_of_settles hsettles
              rw [window?_work hpop (flying_after h)]
              by_cases hn : n' = n
              · subst hn
                simp
              · by_cases hwindow : (after h).state.flights.window? k = some n'
                · simp [hwindow, hn]
                · simp [hwindow, hn]

/-- A flight with an open window has not landed. -/
theorem not_landed_of_open (hopen : Open k n h) : n ∉ landings h := by
  induction hopen with
  | @begins h name reply hruns hnumber =>
      rw [landings_of_none rfl]
      exact fun hlanded => Nat.lt_irrefl _ (hnumber ▸ (flying_after h).landed n hlanded)
  | @lasts h m hopen hkeeps hflies ih =>
      rw [landings, List.mem_append]
      rintro (hlands | hlanded)
      · simp only [List.mem_map, Option.mem_toList] at hlands
        obtain ⟨⟨flight, brought⟩, hsettles, rfl⟩ := hlands
        exact hflies brought hsettles
      · exact ih hlanded

/-- Nobody is given a flight that has landed. -/
theorem callers_of_landed (hlanded : n ∈ landings h) (m : Move) :
    callers n (m :: h) = callers n h := by
  have hearly := (flying_after h).landed n hlanded
  cases m with
  | fetch k name reply =>
      cases hwindow : (after h).state.flights.window? k with
      | some n' =>
          have hother : n' ≠ n := by
            rintro rfl
            exact not_landed_of_open ((window?_iff_open h k n').mp hwindow) hlanded
          rw [(enters_join hwindow name reply).given, if_neg hother, List.append_nil]
      | none =>
          rw [(departs_fetch hwindow name reply).enters.given, if_neg hearly.ne', List.append_nil]
  | fetchAlone name reply =>
      rw [(departs_fetchAlone h name reply).enters.given, if_neg hearly.ne', List.append_nil]
  | clear | work | wait limit => rfl

/-- A landing delivers what it brings to all who were given the flight, at once. -/
theorem deliveries_work {key : Option Key} {brought : Except Failure Json}
    {agenda : Agenda PoolJob} (hpop : (after h).agenda.pop? = some (.land n key brought, agenda)) :
    (after (.work :: h)).state.deliveries =
      ((callers n h).map fun name => (⟨(after h).now, name,
        brought.map fun value => ⟨(after h).state.nextStamp, value⟩⟩ : Delivery)).reverse ++
      (after h).state.deliveries := by
  have hawaited := (tracked_work hpop (flying_after h)).awaited
  have hnow : agenda.now = (after h).agenda.now := (Agenda.pending_pop hpop).2
  rw [after_work hpop]
  simp only [land, List.partition_eq_filter_filter]
  rw [← show _ = callers n h from hawaited, List.map_map]
  simp only [Timed.now, hnow, PoolJob.flight, Function.comp_def]

/-- A move with which nothing lands delivers nothing. -/
theorem deliveries_of_none (hsettles : (after h).settles m = none) :
    (after (m :: h)).state.deliveries = (after h).state.deliveries := by
  cases m with
  | fetch k name reply =>
      cases hwindow : (after h).state.flights.window? k with
      | some n => simp only [after, move, fetch_of_window hwindow, enter]
      | none => simp only [after, move, fetch_of_none hwindow, begin, enter]
  | fetchAlone name reply => rfl
  | clear => rfl
  | work => rw [state_work hsettles]
  | wait limit => rw [state_wait]

/-! ## Sharing -/

/-- How a pool shares its fetches, after some moves. -/
structure Shares (h : List Move) : Prop where
  /-- A call runs its fetcher if no fetch that departed for the key since the pool was last cleared
  is still to land. -/
  runs : ∀ k name reply, ((after h).fetch k name reply).1 = true ↔ ∀ n, ¬Open k n h
  /-- Otherwise it joins that fetch. -/
  joins : ∀ k n, Open k n h → ∀ name reply,
    (after h).fetch k name reply = (false, (after h).enter n name) ∧
      callers n (.fetch k name reply :: h) = callers n h ++ [name]
  single : ∀ k n n', Open k n h → Open k n' h → n = n'
  /-- It is seen to be under way exactly so long. -/
  isOpen : ∀ k, (after h).isOpen k = true ↔ ∃ n, Open k n h
  /-- A landing closes its own window and no other, not even a newer one of the same key. -/
  closes : ∀ m n brought, (after h).settles m = some (n, brought) → ∀ k n',
    (after (m :: h)).state.flights.window? k = some n' ↔
      (after h).state.flights.window? k = some n' ∧ n' ≠ n
  /-- All who were given a flight obtain one result, that of its own fetch, when it lands. -/
  serves : ∀ m n brought, (after h).settles m = some (n, brought) →
    ∃ reply given, Runs n reply h ∧ brought = reply.brought ∧
      given.map Version.value = brought ∧ (after (m :: h)).state.deliveries =
        ((callers n h).map fun name => ⟨(after h).now, name, given⟩).reverse ++
          (after h).state.deliveries
  /-- Nothing else serves anyone. -/
  silent : ∀ m, (after h).settles m = none →
    (after (m :: h)).state.deliveries = (after h).state.deliveries
  /-- A flight lands once, and is given to nobody afterwards. -/
  once : (landings h).Nodup ∧ ∀ n ∈ landings h, ∀ m, callers n (m :: h) = callers n h
  /-- Until then it is to be done. -/
  coming : ∀ n, callers n h ≠ [] →
    n ∈ landings h ∨ ∃ j ∈ (after h).agenda.jobs, j.flight = n
  /-- Letting time pass is making moves. -/
  passes : ∀ duration, ∃ l, (after h).pass duration = after (l ++ h)

/-- **One result for a window.**  After any moves whatever, a call runs its fetcher exactly when no
window of its key is open, and joins that one otherwise; all who share a window are given the same
version or the same failure; and a landing closes nothing but its own window. -/
theorem shares_after (h : List Move) : Shares h := by
  have hf := flying_after h
  refine ⟨fun k name reply => ?_, fun k n hopen name reply => ?_, fun k n n' hopen hopen' => ?_,
    fun k => ?_, fun m n brought hsettles k n' => ?_, fun m n brought hsettles => ?_,
    fun m hsettles => deliveries_of_none hsettles,
    ⟨hf.once, fun n hlanded m => callers_of_landed hlanded m⟩, fun n hgiven => ?_,
    fun duration => moves_elapse _ _ h⟩
  · rw [runs_iff, Option.eq_none_iff_forall_ne_some]
    exact forall_congr' fun n => not_congr (window?_iff_open h k n)
  · have hwindow := (window?_iff_open h k n).mpr hopen
    refine ⟨fetch_of_window hwindow name reply, ?_⟩
    rw [(enters_join hwindow name reply).given, if_pos rfl]
  · rw [← window?_iff_open] at hopen hopen'
    exact Option.some.inj (hopen.symm.trans hopen')
  · rw [← exists_congr fun n => window?_iff_open h k n, ← Option.isSome_iff_exists]
    simp [Pool.isOpen, Flights.isOpen, Flights.window?]
  · obtain ⟨rfl, key, agenda, hpop⟩ := pop_of_settles hsettles
    rw [window?_work hpop hf]
    split
    · rename_i hwindow
      rw [hwindow]
      simp only [reduceCtorEq, Option.some.injEq, false_iff, not_and, not_not]
      exact fun hn => hn.symm
    · rename_i hwindow
      refine ⟨fun hn => ⟨hn, ?_⟩, fun hn => hn.1⟩
      rintro rfl
      exact hwindow hn
  · obtain ⟨rfl, key, agenda, hpop⟩ := pop_of_settles hsettles
    obtain ⟨reply, hruns, hbrought⟩ := (tracked_work hpop hf).carries
    refine ⟨reply, _, hruns, hbrought, ?_, deliveries_work hpop⟩
    cases brought <;> rfl
  · refine hf.coming n (Nat.lt_of_not_le fun hlate => ?_)
    exact hgiven (hf.fresh n hlate)

/-- The pool is cleared under a fetch that takes ten seconds. -/
def cleared : List Move :=
  let k : Key := ⟨"getMessages:"⟩
  [.wait 10000, .fetch k "third" ⟨.ok .null, 0⟩, .work, .fetch k "second" ⟨.ok .null, 20000⟩, .clear,
    .work, .fetch k "first" ⟨.ok .null, 10000⟩]

/-- It lands, and the newer window of the key stays open. -/
example : (after (.work :: cleared)).state.flights.windows.toList = [(⟨"getMessages:"⟩, 1)] ∧
    landings (.work :: cleared) = [0] ∧ callers 1 cleared = ["second", "third"] := by
  decide +kernel

end QueryCache.Pool
