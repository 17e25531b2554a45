import Mathlib.Data.List.Infix
import Mathlib.Data.List.TakeWhile
import Mathlib.Data.Multiset.Filter
import QueryCache.Timeline.Agenda
/-!
# What an agenda has pending

A job that is ready is due now, and one that waits for an alarm is due when that goes off.  Seen
like this (`pending`), setting an alarm and making a job ready are one and the same
(`pending_schedule`), and waking for the next alarm changes nothing at all but the time
(`Prompt.wake`).

An agenda is `Prompt` when its alarms stand in their order and none of them is due by now: then the
clock never passes over a job.
-/

namespace QueryCache.Agenda

variable {α : Type} {a a' : Agenda α} {job : α}

/-- The jobs that are to come, with their times. -/
def pending (a : Agenda α) : Multiset (Alarm α) :=
  ↑(a.ready.map (Alarm.mk a.now) ++ a.alarms)

/-- The alarms stand in their order, and are yet to come. -/
structure Prompt (a : Agenda α) : Prop where
  sorted : a.alarms.Pairwise fun x y => x.due ≤ y.due
  ahead : ∀ x ∈ a.alarms, a.now < x.due

/-! ## Jobs come and go -/

/-- A job made ready is due now. -/
theorem pending_push (a : Agenda α) (job : α) :
    (a.push job).pending = ⟨a.now, job⟩ ::ₘ a.pending := by
  unfold pending push
  rw [List.map_append, List.append_assoc, Multiset.cons_coe, Multiset.coe_eq_coe]
  exact List.perm_middle

/-- A new alarm joins the others, and changes none of them. -/
theorem perm_insertAlarm (x : Alarm α) (l : List (Alarm α)) : (insertAlarm x l).Perm (x :: l) := by
  induction l with
  | nil => exact .refl _
  | cons y l ih =>
      unfold insertAlarm
      split
      · exact (ih.cons y).trans (.swap x y l)
      · exact .refl _

/-- A job is pending for its time, or for now if that has passed. -/
theorem pending_schedule (a : Agenda α) (due : Nat) (job : α) :
    (a.schedule due job).pending = ⟨max a.now due, job⟩ ::ₘ a.pending := by
  unfold schedule
  split
  · rename_i hdue
    rw [Nat.max_eq_left hdue]
    rfl
  · rename_i hdue
    rw [Nat.max_eq_right (by omega)]
    unfold pending
    rw [Multiset.cons_coe, Multiset.coe_eq_coe]
    exact ((perm_insertAlarm _ a.alarms).append_left _).trans List.perm_middle

/-- The next job is one that is due now. -/
theorem pending_pop (hpop : a.pop? = some (job, a')) :
    a.pending = ⟨a.now, job⟩ ::ₘ a'.pending ∧ a'.now = a.now := by
  unfold pop? at hpop
  split at hpop
  · cases hpop
  · rename_i first rest hready
    cases hpop
    refine ⟨?_, rfl⟩
    unfold pending
    rw [hready]
    rfl

/-! ## Jobs of one sort -/

/-- A job made ready is due now, and is to be seen if it is of the sort. -/
theorem filter_push (sort : α → Bool) (a : Agenda α) (job : α) :
    ((a.push job).pending.filter fun x => sort x.job = true) =
      (if sort job then {⟨a.now, job⟩} else 0) + a.pending.filter fun x => sort x.job = true := by
  rw [pending_push, Multiset.filter_cons]

/-- A job that is scheduled is to be seen if it is of the sort. -/
theorem filter_schedule (sort : α → Bool) (a : Agenda α) (due : Nat) (job : α) :
    ((a.schedule due job).pending.filter fun x => sort x.job = true) =
      (if sort job then {⟨max a.now due, job⟩} else 0) +
        a.pending.filter fun x => sort x.job = true := by
  rw [pending_schedule, Multiset.filter_cons]

/-- The next job has been one that is due now, and was to be seen if it is of the sort. -/
theorem filter_pop (sort : α → Bool) (hpop : a.pop? = some (job, a')) :
    (a.pending.filter fun x => sort x.job = true) =
      (if sort job then {⟨a.now, job⟩} else 0) + a'.pending.filter fun x => sort x.job = true := by
  rw [(pending_pop hpop).1, Multiset.filter_cons]

/-! ## Time -/

theorem now_push (a : Agenda α) (job : α) : (a.push job).now = a.now := rfl

/-- Scheduling takes no time. -/
theorem now_schedule (a : Agenda α) (due : Nat) (job : α) : (a.schedule due job).now = a.now := by
  unfold schedule
  split <;> rfl

/-! ## An agenda stays prompt -/

/-- The alarms are left alone when a job is made ready. -/
theorem Prompt.push (h : a.Prompt) (job : α) : (a.push job).Prompt := ⟨h.sorted, h.ahead⟩

theorem mem_insertAlarm {x y : Alarm α} {l : List (Alarm α)} :
    y ∈ insertAlarm x l ↔ y = x ∨ y ∈ l :=
  (perm_insertAlarm x l).mem_iff.trans List.mem_cons

/-- A new alarm goes where its time belongs. -/
theorem sorted_insertAlarm (x : Alarm α) {l : List (Alarm α)}
    (h : l.Pairwise fun x y => x.due ≤ y.due) :
    (insertAlarm x l).Pairwise fun x y => x.due ≤ y.due := by
  induction l with
  | nil => exact List.pairwise_singleton _ _
  | cons y l ih =>
      obtain ⟨hhead, htail⟩ := List.pairwise_cons.mp h
      unfold insertAlarm
      split
      · rename_i hle
        refine List.pairwise_cons.mpr ⟨fun z hz => ?_, ih htail⟩
        rcases mem_insertAlarm.mp hz with rfl | hz
        · exact hle
        · exact hhead z hz
      · rename_i hlt
        refine List.pairwise_cons.mpr ⟨fun z hz => ?_, h⟩
        rcases List.mem_cons.mp hz with rfl | hz
        · omega
        · have := hhead z hz
          omega

/-- Scheduling keeps an agenda prompt: what would be due by now is made ready instead. -/
theorem Prompt.schedule (h : a.Prompt) (due : Nat) (job : α) : (a.schedule due job).Prompt := by
  unfold Agenda.schedule
  split
  · exact ⟨h.sorted, h.ahead⟩
  · rename_i hdue
    refine ⟨sorted_insertAlarm _ h.sorted, fun x hx => ?_⟩
    rcases mem_insertAlarm.mp hx with rfl | hx
    · simpa using hdue
    · exact h.ahead x hx

/-- The alarms are left alone when a job is taken. -/
theorem Prompt.pop (h : a.Prompt) (hpop : a.pop? = some (job, a')) : a'.Prompt := by
  unfold pop? at hpop
  split at hpop
  · cases hpop
  · cases hpop
    exact ⟨h.sorted, h.ahead⟩

/-! ## The clock -/

/-- Only an agenda with nothing ready gives no job. -/
theorem ready_of_pop (hpop : a.pop? = none) : a.ready = [] := by
  unfold pop? at hpop
  split at hpop
  · assumption
  · cases hpop

/-- With nothing ready, the alarms are all that is to come. -/
theorem pending_of_ready (hready : a.ready = []) : a.pending = ↑a.alarms := by
  unfold pending
  rw [hready]
  rfl

/-- Nothing that is to come is overdue. -/
theorem Prompt.now_le (h : a.Prompt) : ∀ x ∈ a.pending, a.now ≤ x.due := by
  intro x hx
  rcases List.mem_append.mp (Multiset.mem_coe.mp hx) with hready | halarm
  · obtain ⟨job, -, rfl⟩ := List.mem_map.mp hready
    exact Nat.le_refl _
  · exact Nat.le_of_lt (h.ahead x halarm)

/-- Of alarms in their order, those that are left when the first few have gone off are later. -/
theorem ahead_dropWhile {l : List (Alarm α)} (h : l.Pairwise fun x y => x.due ≤ y.due) {now : Nat} :
    ∀ x ∈ l.dropWhile fun x => decide (x.due ≤ now), now < x.due := by
  induction l with
  | nil => exact nofun
  | cons y l ih =>
      obtain ⟨hhead, htail⟩ := List.pairwise_cons.mp h
      by_cases hy : y.due ≤ now
      · rw [List.dropWhile_cons_of_pos (by simpa using hy)]
        exact ih htail
      · rw [List.dropWhile_cons_of_neg (by simpa using hy)]
        intro x hx
        rcases List.mem_cons.mp hx with rfl | hx
        · omega
        · have := hhead x hx
          omega

/-- What goes off at the time of the earliest alarms are the alarms themselves. -/
theorem map_job_takeWhile {l : List (Alarm α)} {now : Nat} (h : ∀ x ∈ l, now ≤ x.due) :
    ((l.takeWhile fun x => decide (x.due ≤ now)).map Alarm.job).map (Alarm.mk now) =
      l.takeWhile fun x => decide (x.due ≤ now) := by
  rw [List.map_map]
  refine (List.map_congr_left fun x hx => ?_).trans (List.map_id _)
  have hdue := List.mem_takeWhile_imp hx
  have hmem := h x (List.takeWhile_subset _ hx)
  simp only [decide_eq_true_eq] at hdue
  have hnow : now = x.due := by omega
  simp [hnow]

/-- The alarms that go off are those that are due at that time. -/
theorem Prompt.wake (h : a.Prompt) (hready : a.ready = []) {limit : Nat}
    (hwake : a.wake? limit = some a') :
    a'.Prompt ∧ a'.pending = a.pending ∧ a.now ≤ a'.now ∧ ∀ x ∈ a.pending, a'.now ≤ x.due := by
  unfold wake? at hwake
  split at hwake
  · cases hwake
  · rename_i first rest halarms
    split at hwake
    · cases hwake
      have hnow : max a.now first.due = first.due :=
        Nat.max_eq_right (Nat.le_of_lt (h.ahead first (by simp [halarms])))
      have hfirst : ∀ x ∈ a.alarms, first.due ≤ x.due := by
        intro x hx
        have hsorted := h.sorted
        rw [halarms] at hx hsorted
        rcases List.mem_cons.mp hx with rfl | hx
        · exact Nat.le_refl _
        · exact (List.pairwise_cons.mp hsorted).1 x hx
      simp only [hnow, hready, List.nil_append]
      have hdrop : a.alarms.drop (a.alarms.takeWhile fun x => decide (x.due ≤ first.due)).length =
          a.alarms.dropWhile fun x => decide (x.due ≤ first.due) :=
        calc
          _ = ((a.alarms.takeWhile fun x => decide (x.due ≤ first.due)) ++
                a.alarms.dropWhile fun x => decide (x.due ≤ first.due)).drop
                (a.alarms.takeWhile fun x => decide (x.due ≤ first.due)).length := by
            rw [List.takeWhile_append_dropWhile]
          _ = _ := List.drop_left
      have hpending : a.pending = ↑a.alarms := pending_of_ready hready
      rw [hdrop, hpending]
      refine ⟨⟨h.sorted.sublist (List.dropWhile_sublist _), ahead_dropWhile h.sorted⟩, ?_,
        Nat.le_of_lt (h.ahead first (by simp [halarms])), hfirst⟩
      unfold pending
      rw [map_job_takeWhile hfirst, List.takeWhile_append_dropWhile]
    · cases hwake

/-- When no alarm goes off by a time, the clock may go on to it. -/
theorem Prompt.rest (h : a.Prompt) (hready : a.ready = []) {limit : Nat}
    (hwake : a.wake? limit = none) :
    Prompt { a with now := max a.now limit } ∧
      pending { a with now := max a.now limit } = a.pending ∧
      ∀ x ∈ a.pending, max a.now limit ≤ x.due := by
  have hlater : ∀ x ∈ a.alarms, max a.now limit < x.due := by
    intro x hx
    have hahead := h.ahead x hx
    unfold wake? at hwake
    split at hwake
    · rename_i halarms
      rw [halarms] at hx
      cases hx
    · rename_i first rest halarms
      split at hwake
      · cases hwake
      · rename_i hfirst
        have hsorted := h.sorted
        rw [halarms] at hx hsorted
        rcases List.mem_cons.mp hx with rfl | hx
        · omega
        · have := (List.pairwise_cons.mp hsorted).1 x hx
          omega
  refine ⟨⟨h.sorted, hlater⟩, ?_, fun x hx => ?_⟩
  · rw [pending_of_ready hready]
    exact pending_of_ready hready
  · rw [pending_of_ready hready] at hx
    exact Nat.le_of_lt (hlater x hx)

/-! ## Jobs without their times -/

/-- What is to be done, whenever it is. -/
def jobs (a : Agenda α) : Multiset α := a.pending.map Alarm.job

/-- Making a job ready adds it to what is to be done. -/
theorem jobs_push (a : Agenda α) (job : α) : (a.push job).jobs = job ::ₘ a.jobs := by
  unfold jobs
  rw [pending_push, Multiset.map_cons]

/-- Setting a timer for a job adds it to what is to be done. -/
theorem jobs_after (a : Agenda α) (delay : Nat) (job : α) :
    (a.after delay job).jobs = job ::ₘ a.jobs := by
  unfold jobs after
  rw [pending_schedule, Multiset.map_cons]

/-- Taking a job takes it off what is to be done. -/
theorem jobs_pop (hpop : a.pop? = some (job, a')) : a.jobs = job ::ₘ a'.jobs := by
  unfold jobs
  rw [(pending_pop hpop).1, Multiset.map_cons]

/-- The times are of no account. -/
theorem jobs_eq (a : Agenda α) : a.jobs = ↑(a.ready ++ a.alarms.map Alarm.job) := by
  simp [jobs, pending, Function.comp_def]

/-- Waking makes jobs ready, and neither makes nor loses one. -/
theorem jobs_wake {limit : Nat} (hwake : a.wake? limit = some a') : a'.jobs = a.jobs := by
  unfold wake? at hwake
  split at hwake
  · cases hwake
  · split at hwake
    · cases hwake
      rw [jobs_eq, jobs_eq, Multiset.coe_eq_coe, List.append_assoc, ← List.map_append,
        ← List.prefix_append_drop (List.takeWhile_prefix _)]
    · cases hwake

end QueryCache.Agenda
