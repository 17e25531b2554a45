import QueryCache.Proofs.Freshness
import QueryCache.Proofs.Household
/-!
# Entries are dropped in time

The grace period of an entry runs from the moment it was made or its last subscriber left, as long
as nobody comes.  `idleSince` reads that moment off the moves of a timeline; what the entry itself
has on record is the same (`idleSince_moved`).

No entry is dropped before its grace period is over, whatever old timers go off meanwhile.  And as
long as there is a background and timers run that long, none is left when its grace period is over
and everything due has been done (`collects_in_time`).  The invariant is `Kept`: for every entry
that nobody watches, the grace period is still to begin, or the drop at its end is to come.  Each
condition is needed (`collection_forgets`).
-/

namespace QueryCache

namespace Attendance

/-- Since when nobody has watched, if nobody does. -/
def idleSince (a : Attendance) : Option Nat := if a.isWatched then none else a.unusedSince

/-- Where nobody watches it is on record since when. -/
def Dated (now : Nat) (seat : Option Attendance) : Prop :=
  ∀ a, seat = some a → a.isWatched = false → ∃ since, a.unusedSince = some since ∧ since ≤ now

variable {now keep : Nat} {seat seat' : Option Attendance} {a : Attendance}

/-- An entry that is watched is not idle. -/
theorem idleSince_of_watched (h : a.isWatched = true) : a.idleSince = none := if_pos h

/-- An entry that nobody watches has been idle since the moment on record. -/
theorem idleSince_of_unwatched (h : a.isWatched = false) : a.idleSince = a.unusedSince :=
  if_neg (by simp [h])

/-- When the last one leaves, that moment is now. -/
theorem unusedSince_leftBy {subscriber : Nat} (h : (a.leftBy subscriber now).isWatched = false) :
    (a.leftBy subscriber now).unusedSince = some now := by
  have hempty : (a.subscribers.erase subscriber).isEmpty = true := by
    simpa [isWatched, leftBy] using h
  exact if_pos hempty

/-- Whatever becomes of an entry, it is on record since when nobody watches it. -/
theorem Fate.dated (h : Fate now keep seat seat') (hdated : Dated now seat) : Dated now seat' := by
  intro a ha hunwatched
  cases h with
  | stays => exact hdated a ha hunwatched
  | comes _ endpoint subscriber =>
      cases ha
      rw [isWatched_joinedBy] at hunwatched
      cases hunwatched
  | leaves =>
      cases ha
      exact ⟨now, unusedSince_leftBy hunwatched, Nat.le_refl _⟩
  | makes endpoint =>
      cases ha
      exact ⟨now, rfl, Nat.le_refl _⟩
  | drops => cases ha

/-- An entry that nobody watches has been so before, or is so from now on. -/
theorem Fate.idleSince_eq (h : Fate now keep seat seat') (hdated : Dated now seat) :
    seat'.bind idleSince =
      if seat'.any (fun a => !a.isWatched) then (seat.bind idleSince).or (some now) else none := by
  cases h with
  | stays =>
      cases seat with
      | none => rfl
      | some a =>
          cases hwatched : a.isWatched with
          | true => simp [idleSince_of_watched, hwatched]
          | false =>
              obtain ⟨since, hsince, -⟩ := hdated a rfl hwatched
              simp [idleSince_of_unwatched, hwatched, hsince]
  | comes _ name subscriber =>
      have hwatched := isWatched_joinedBy (seat.getD (.made name now)) subscriber
      simp [idleSince_of_watched, hwatched]
  | @leaves a subscriber hmem =>
      have hbefore : a.idleSince = none := idleSince_of_watched (isWatched_of_mem hmem)
      cases hwatched : (a.leftBy subscriber now).isWatched with
      | true => simp [idleSince_of_watched, hwatched]
      | false =>
          simp [idleSince_of_unwatched, hwatched, hbefore, unusedSince_leftBy]
  | makes endpoint =>
      have hunwatched := isWatched_made endpoint now
      simp only [Option.bind_some, idleSince_of_unwatched hunwatched, Option.any_some, hunwatched]
      rfl
  | drops => rfl

/-- What is dropped has been idle for the grace period. -/
theorem Over.idleSince_le (h : a.Over now keep) (hdated : Dated now (some a)) :
    ∃ since, a.idleSince = some since ∧ since + keep ≤ now := by
  obtain ⟨hunwatched, since, hsince, hover⟩ := h
  obtain ⟨since', hsince', hle⟩ := hdated a rfl hunwatched
  have hsame : since = since' := Option.some.inj (hsince.symm.trans hsince')
  refine ⟨since, (idleSince_of_unwatched hunwatched).trans hsince, ?_⟩
  omega

end Attendance

namespace Session

/-- There is an entry, and nobody watches it. -/
def isIdle (s : Session) (k : Key) : Bool := s.cache.contains k && !s.isWatched k

def idleSince (s : Session) (k : Key) : Option Nat := (s.attendance k).bind Attendance.idleSince

variable {s s' : Session} {k : Key}

/-- There is an entry where there is somebody to watch, or nobody. -/
theorem contains_eq_isSome (s : Session) (k : Key) :
    s.cache.contains k = (s.attendance k).isSome := by
  rw [s.cache.contains_eq k]
  unfold attendance read
  exact Option.isSome_map.symm

/-- Idle is told by the attendance. -/
theorem isIdle_eq (s : Session) (k : Key) :
    s.isIdle k = (s.attendance k).any fun a => !a.isWatched := by
  unfold isIdle
  rw [contains_eq_isSome, isWatched_eq]
  cases s.attendance k <;> rfl

/-- Whoever leaves last, or makes an entry and does not stay, has its grace period begun. -/
theorem Turnover.graced {now : Nat} {e : Event} (h : s.Turnover now e s')
    (hback : s.setup.background = true) (hbefore : s.isIdle k = false)
    (hidle : s'.isIdle k = true) : .grace k ∈ s'.chores := by
  rw [isIdle_eq] at hbefore hidle
  have hsame : s'.attendance k ≠ s.attendance k := by
    intro heq
    rw [heq, hbefore] at hidle
    cases hidle
  have hgraces : ∀ k, s.graces k = [.grace k] := fun k => if_pos hback
  cases h with
  | tells htells => exact absurd (htells.attends.attendance k) hsame
  | @comes name args _ endpoint a subscriber _ _ hseats =>
      rw [hseats.attendance] at hidle hsame
      split at hidle
      · rw [Option.any_some, Attendance.isWatched_joinedBy] at hidle
        cases hidle
      · rename_i hother
        exact absurd (if_neg hother) hsame
  | leaves _ _ hrest hseats =>
      rw [hseats.attendance] at hidle hsame
      split at hidle
      · rw [Option.any_some, hrest] at hidle
        cases hidle
      · rename_i hother
        exact absurd (if_neg hother) hsame
  | leavesLast _ _ _ hseats _ hchores | makes _ _ hseats _ hchores =>
      rw [hseats.attendance] at hsame
      split at hsame
      · rename_i hk
        rw [hchores, hgraces, hk]
        exact List.mem_append_right _ (List.mem_singleton.mpr rfl)
      · exact absurd rfl hsame
  | drops _ hdrops =>
      have hread := hdrops.read k
      unfold attendance at hidle hsame
      rw [hread] at hidle hsame
      split at hidle
      · cases hidle
      · rename_i hother
        exact absurd (by rw [if_neg hother]) hsame
  | clears =>
      rw [attendance_reset] at hidle
      cases hidle
  | ends => exact absurd rfl hsame

/-- A grace period that is over has an end. -/
theorem attendance_evict {now since : Nat} (hidle : s.idleSince k = some since)
    (hover : since + s.cache.keep ≤ now) : (s.evict now k).attendance k = none := by
  obtain ⟨a, ha, hsince⟩ := Option.bind_eq_some_iff.mp hidle
  obtain ⟨e, he, rfl⟩ := Option.map_eq_some_iff.mp ha
  have hunwatched : e.isWatched = false := by
    cases hwatched : e.isWatched with
    | true => cases (Attendance.idleSince_of_watched (a := e.attendance) hwatched).symm.trans hsince
    | false => rfl
  have hunused : e.unusedSince = some since :=
    (Attendance.idleSince_of_unwatched (a := e.attendance) hunwatched).symm.trans hsince
  have hlong : s.cache.keep ≤ now - since := by omega
  have hevictable : s.cache.isEvictable k now = true := by
    change ((s.read k).map fun e => e.isEvictable now s.cache.keep).getD false = true
    simp [he, Entry.isEvictable, hunwatched, hunused, hlong]
  have hgone := (drops_foldl_forget [k] s).read k
  rw [if_pos List.mem_cons_self] at hgone
  unfold evict Cache.evict
  rw [if_pos hevictable]
  exact congrArg (Option.map Entry.attendance) hgone

/-- Nothing is done to an entry but to drop it. -/
theorem idleSince_of_evict {now since : Nat} {k' : Key}
    (hidle : (s.evict now k').idleSince k = some since) : s.idleSince k = some since := by
  unfold evict Cache.evict at hidle
  by_cases h : s.cache.isEvictable k' now = true
  · rw [if_pos h] at hidle
    have hread := (drops_foldl_forget [k'] s).read k
    change (((List.foldl forget { s with cache := List.foldl Cache.remove s.cache [k'] }
      [k']).read k).map Entry.attendance).bind Attendance.idleSince = some since at hidle
    rw [hread] at hidle
    split at hidle
    · cases hidle
    · exact hidle
  · rw [if_neg h] at hidle
    exact hidle

end Session

namespace Household

/-- Of every entry that nobody watches it is on record since when. -/
def Dated (h : Household) : Prop := ∀ k, Attendance.Dated h.now (h.session.attendance k)

/-- For every entry that nobody watches, the grace period is to begin, or the drop at its end is to
come. -/
def Kept (h : Household) : Prop :=
  ∀ k since, h.session.idleSince k = some since →
    ⟨since, .grace k⟩ ∈ h.chores ∨ ⟨since + h.session.cache.keep, .evict k⟩ ∈ h.chores

variable {h h' : Household} {m : Mark} {k : Key}

/-- The moments on record stay right in each step. -/
theorem Step.dated (hstep : Step m h h') (hdated : h.Dated) : h'.Dated := by
  intro k a ha hunwatched
  have hbound : ∃ since, a.unusedSince = some since ∧ since ≤ h.now := by
    by_cases hm : m = .reset
    · subst hm
      cases (hstep.cleared k).symm.trans ha
    · exact (hstep.fate hm k).dated (hdated k) a ha hunwatched
  obtain ⟨since, hsince, hle⟩ := hbound
  exact ⟨since, hsince, hle.trans hstep.later⟩

/-- What nobody watches has been so before, or is so from now on. -/
theorem Step.idleSince_eq (hstep : Step m h h') (hdated : h.Dated) (k : Key) :
    h'.session.idleSince k = if h'.session.isIdle k then
      (h.session.idleSince k).or (some h.now) else none := by
  rw [Session.isIdle_eq]
  by_cases hm : m = .reset
  · subst hm
    unfold Session.idleSince
    rw [hstep.cleared k]
    rfl
  · exact (hstep.fate hm k).idleSince_eq (hdated k)

/-- Without such a moment an entry is not idle. -/
theorem Dated.isIdle_eq_false (hdated : h.Dated) (hnone : h.session.idleSince k = none) :
    h.session.isIdle k = false := by
  rw [Session.isIdle_eq]
  unfold Session.idleSince at hnone
  cases ha : h.session.attendance k with
  | none => rfl
  | some a =>
      rw [ha] at hnone
      cases hwatched : a.isWatched with
      | true => simp [hwatched]
      | false =>
          obtain ⟨since, hsince, -⟩ := hdated k a ha hwatched
          have hnever := (Attendance.idleSince_of_unwatched hwatched).symm.trans hnone
          cases hsince.symm.trans hnever

/-- Such a moment has been. -/
theorem Dated.le {since : Nat} (hdated : h.Dated) (hsince : h.session.idleSince k = some since) :
    since ≤ h.now := by
  obtain ⟨a, ha, hidle⟩ := Option.bind_eq_some_iff.mp hsince
  cases hwatched : a.isWatched with
  | true => cases (Attendance.idleSince_of_watched hwatched).symm.trans hidle
  | false =>
      obtain ⟨since', hsince', hle⟩ := hdated k a ha hwatched
      have hunused := (Attendance.idleSince_of_unwatched hwatched).symm.trans hidle
      cases hsince'.symm.trans hunused
      exact hle

/-- What is asked for now is to be done now. -/
theorem mem_asked {now : Nat} {errands : List Errand} {e : Errand} (he : e ∈ errands) :
    ⟨now, Timeline.jobOf e⟩ ∈ asked now errands :=
  Multiset.mem_coe.mpr (List.mem_map_of_mem he)

/-- An entry that has been idle since then is seen through while a chore is done that is none of its
own. -/
theorem Kept.rest {now since : Nat} {s : Session} {c : Multiset (Alarm Job)} {x : Alarm Job}
    (hkept : Kept ⟨now, s, x ::ₘ c⟩) (hsince : s.idleSince k = some since)
    (hgrace : x ≠ ⟨since, .grace k⟩) (hevict : x ≠ ⟨since + s.cache.keep, .evict k⟩) :
    ⟨since, .grace k⟩ ∈ c ∨ ⟨since + s.cache.keep, .evict k⟩ ∈ c := by
  rcases hkept k since hsince with hmem | hmem
  · exact .inl ((Multiset.mem_cons.mp hmem).resolve_left hgrace.symm)
  · exact .inr ((Multiset.mem_cons.mp hmem).resolve_left hevict.symm)

/-- A grace period begins with a timer for the end of it. -/
theorem Kept.begins {now : Nat} {s : Session} {c : Multiset (Alarm Job)} {k' : Key}
    (hkept : Kept ⟨now, s, ⟨now, .grace k'⟩ ::ₘ c⟩)
    (hspan : Timer.span s.setup.options.keep = s.cache.keep) :
    Kept ⟨now, s, ⟨now + Timer.span s.setup.options.keep, .evict k'⟩ ::ₘ c⟩ := by
  intro k since hsince
  rw [hspan]
  by_cases hown : (⟨now, .grace k'⟩ : Alarm Job) = ⟨since, .grace k⟩
  · cases hown
    exact .inr (Multiset.mem_cons_self _ _)
  · exact (hkept.rest hsince hown (by simp)).imp Multiset.mem_cons_of_mem Multiset.mem_cons_of_mem

/-- At the end of its grace period an entry is gone. -/
theorem Kept.evicts {now : Nat} {s : Session} {c : Multiset (Alarm Job)} {k' : Key}
    (hkept : Kept ⟨now, s, ⟨now, .evict k'⟩ ::ₘ c⟩) {since : Nat}
    (hsince : (s.evict now k').idleSince k = some since) :
    ⟨since, .grace k⟩ ∈ c ∨ ⟨since + s.cache.keep, .evict k⟩ ∈ c := by
  have hbefore := Session.idleSince_of_evict hsince
  refine hkept.rest hbefore (by simp) fun heq => ?_
  obtain ⟨hover, hk⟩ : now = since + s.cache.keep ∧ k' = k := by simpa using heq
  subst hk
  have hgone := Session.attendance_evict hbefore (Nat.le_of_eq hover.symm)
  change ((s.evict now k').attendance k').bind Attendance.idleSince = some since at hsince
  rw [hgone] at hsince
  cases hsince

/-- With an entry that nobody watches any more its grace period is asked for. -/
theorem Kept.turns {now : Nat} {e : Event} {s s' : Session} {c : Multiset (Alarm Job)}
    (hkept : Kept ⟨now, s, c⟩) (hdated : Dated ⟨now, s, c⟩)
    (hback : s.setup.background = true) (hturn : s.Turnover now e s') {since : Nat}
    (hidle : (if s'.isIdle k then (s.idleSince k).or (some now) else none) = some since) :
    ⟨since, .grace k⟩ ∈ c + asked now s'.chores ∨
      ⟨since + s.cache.keep, .evict k⟩ ∈ c + asked now s'.chores := by
  split at hidle
  · rename_i hnow
    cases hbefore : s.idleSince k with
    | some since' =>
        rw [hbefore] at hidle
        cases hidle
        exact (hkept k since hbefore).imp (fun hmem => Multiset.mem_add.mpr (.inl hmem))
          fun hmem => Multiset.mem_add.mpr (.inl hmem)
    | none =>
        rw [hbefore] at hidle
        cases hidle
        have hgrace := hturn.graced hback (hdated.isIdle_eq_false hbefore) hnow
        exact .inl (Multiset.mem_add.mpr (.inr (mem_asked hgrace)))
  · cases hidle

/-- **A grace period that has begun is seen through.** -/
theorem Step.kept (hstep : Step m h h') (hback : h.session.setup.background = true)
    (hspan : Timer.span h.session.setup.options.keep = h.session.cache.keep) (hdated : h.Dated)
    (hkept : h.Kept) : h'.Kept := by
  intro k since hsince
  rw [hstep.setup.2]
  have hidle := (hstep.idleSince_eq hdated k).symm.trans hsince
  cases hstep with
  | turns _ _ hturn => exact hkept.turns hdated hback hturn hidle
  | @resets now s c =>
      have hgone : s.reset.takeErrands.2.idleSince k = none :=
        congrArg (Option.bind · Attendance.idleSince) (Session.attendance_reset s k)
      cases hgone.symm.trans hsince
  | waits => exact hkept k since hsince
  | begins => exact hkept.begins hspan k since hsince
  | evicts => exact hkept.evicts hsince
  | setsOut =>
      exact (hkept.rest hsince (by simp) (by simp)).imp Multiset.mem_cons_of_mem
        Multiset.mem_cons_of_mem
  | @ticks now s s' c k' serial interval due hcurrent hwatched htells =>
      have hbefore : s.idleSince k = some since := by
        unfold Session.idleSince
        rw [← htells.attends.attendance]
        exact hsince
      exact (hkept.rest hbefore (by simp) (by simp)).imp Multiset.mem_cons_of_mem
        Multiset.mem_cons_of_mem
  | ceases | lapses => exact hkept.rest hsince (by simp) (by simp)

end Household

namespace Timeline

variable {σ : Type} {t : Timeline σ}

/-- Since when the entry of a key has been there with nobody to watch it, as the moves tell. -/
def idleSince (t : Timeline σ) (k : Key) : List Move → Option Nat
  | [] => none
  | m :: h =>
    if (t.moved (m :: h)).session.isIdle k then (t.idleSince k h).or (some (t.moved h).now)
    else none

/-- The next move drops nothing, unless it is a reset, that somebody has watched during the last
grace period. -/
def DropsNothingEarly (t : Timeline σ) (h : List Move) : Prop :=
  ∀ m k, m ≠ .reset → (t.moved h).session.cache.contains k = true →
    (t.moved (m :: h)).session.cache.contains k = false →
    ∃ since, t.idleSince k h = some since ∧
      since + t.session.setup.options.keep ≤ (t.moved h).now

/-- If all that is due has been done, nothing is left that nobody has watched for the grace
period. -/
def ForgetsNothing (t : Timeline σ) (h : List Move) : Prop :=
  (t.moved h).CaughtUp → ∀ k, (t.moved h).session.isIdle k = true →
    ∃ since, t.idleSince k h = some since ∧
      (t.moved h).now < since + t.session.setup.options.keep

theorem markOf_ne_reset (t : Timeline σ) (job : Job) : t.markOf job ≠ .reset := by
  cases job with
  | tick k serial interval due =>
      simp only [markOf]
      split <;> simp
  | _ => simp [markOf]

/-- Only a reset leaves the mark of one. -/
theorem mark_ne_reset (t : Timeline σ) {m : Move} (hm : m ≠ .reset) : t.mark m ≠ .reset := by
  cases m with
  | ask d hbrief =>
      cases d with
      | reset => exact absurd rfl hm
      | _ => simp [mark]
  | work =>
      cases hpop : t.agenda.pop? with
      | none => simp [mark, hpop]
      | some next =>
          simp only [mark, hpop]
          exact t.markOf_ne_reset next.1
  | wait limit => simp [mark]

section Runs

variable (setup : Setup) (answer : Request → σ → Reply × σ) (server : σ) (h : List Move)

/-- The moments on record are right after all moves. -/
theorem dated_moved : ((start setup answer server).moved h).household.Dated := by
  induction h with
  | nil =>
      intro k a ha
      cases (attendance_start setup answer server k).symm.trans ha
  | cons m h ih => exact (step_moved setup answer server h m).dated ih

/-- What an entry has on record is what the moves tell. -/
theorem idleSince_moved (k : Key) : (start setup answer server).idleSince k h =
    ((start setup answer server).moved h).session.idleSince k := by
  induction h with
  | nil =>
      have hnone := attendance_start setup answer server k
      exact (congrArg (Option.bind · Attendance.idleSince) hnone).symm
  | cons m h ih =>
      have hdated := dated_moved setup answer server h
      have hnext := (step_moved setup answer server h m).idleSince_eq hdated k
      unfold idleSince
      rw [ih]
      exact hnext.symm

/-- Every idle entry has its drop to come, after all moves, if there is a background and timers run
that long. -/
theorem kept_moved (hback : setup.background = true) (hkeep : setup.options.keep ≤ Timer.longest) :
    ((start setup answer server).moved h).household.Kept := by
  induction h with
  | nil =>
      intro k since hsince
      have hnone := attendance_start setup answer server k
      cases (congrArg (Option.bind · Attendance.idleSince) hnone).symm.trans hsince
  | cons m h ih =>
      obtain ⟨hsetup, hsame⟩ := setup_moved setup answer server h
      refine (step_moved setup answer server h m).kept ?_ ?_ (dated_moved setup answer server h) ih
      · exact (congrArg Setup.background hsetup).trans hback
      · change Timer.span ((start setup answer server).moved h).session.setup.options.keep =
          ((start setup answer server).moved h).session.cache.keep
        rw [hsetup, hsame]
        exact Timer.span_of_le hkeep

/-- After all moves, the next one drops no entry before its grace period is over. -/
theorem drops_nothing_early : (start setup answer server).DropsNothingEarly h := by
  intro m k hm hthere hgone
  let before := (start setup answer server).moved h
  have hfate := (step_moved setup answer server h m).fate (before.mark_ne_reset hm) k
  change Attendance.Fate before.now before.session.cache.keep (before.session.attendance k)
    (((start setup answer server).moved (m :: h)).session.attendance k) at hfate
  rw [Session.contains_eq_isSome, Option.isSome_iff_exists] at hthere
  rw [Session.contains_eq_isSome, Option.isSome_eq_false_iff, Option.isNone_iff_eq_none] at hgone
  obtain ⟨a, ha⟩ := hthere
  have hdated : Attendance.Dated before.now (some a) := by
    rw [← ha]
    exact dated_moved setup answer server h k
  rw [ha, hgone] at hfate
  cases hfate with
  | drops hover =>
      obtain ⟨since, hsince, hle⟩ := hover.idleSince_le hdated
      refine ⟨since, ?_, ?_⟩
      · rw [idleSince_moved]
        exact (congrArg (Option.bind · Attendance.idleSince) ha).trans hsince
      · rw [(setup_moved setup answer server h).2] at hle
        exact hle

/-- After all moves, no entry is left when its grace period is over and everything due has been
done. -/
theorem forgets_nothing (hback : setup.background = true)
    (hkeep : setup.options.keep ≤ Timer.longest) :
    (start setup answer server).ForgetsNothing h := by
  intro hdone k hidle
  let t := (start setup answer server).moved h
  have hdated := dated_moved setup answer server h
  have hdue : ∀ x ∈ t.chores, t.now < x.due := fun x hx => hdone x (Multiset.mem_filter.mp hx).1
  cases hsince : t.session.idleSince k with
  | none => cases (hdated.isIdle_eq_false hsince).symm.trans hidle
  | some since =>
      refine ⟨since, (idleSince_moved setup answer server h k).trans hsince, ?_⟩
      change t.now < since + setup.options.keep
      rw [← (setup_moved setup answer server h).2]
      rcases kept_moved setup answer server h hback hkeep k since hsince with hgrace | hevict
      · have hpast : since ≤ t.now := hdated.le hsince
        have hcoming := hdue _ hgrace
        exact absurd hcoming (Nat.not_lt.mpr hpast)
      · exact hdue _ hevict

/-- **Entries are dropped in time.**  After any moves, nothing is dropped by the next one, unless
it is a reset, that has been watched during the last grace period, whatever timers go off.  In the
background and for a grace period that timers can run, nothing is left whose grace period is over
when all that is due has been done. -/
theorem collects_in_time :
    (start setup answer server).DropsNothingEarly h ∧
      (setup.background = true → setup.options.keep ≤ Timer.longest →
        (start setup answer server).ForgetsNothing h) :=
  ⟨drops_nothing_early setup answer server h, forgets_nothing setup answer server h⟩

end Runs

/-- A subscriber comes and goes, and another one a little later; the timer of the first goes off. -/
def rejoined : List Move :=
  .work :: settledUntil 100 ++ [.unsubscribe ⟨2, Situation.loneKey⟩] ++
    settledUntil 60 ++ [.subscribe "n" .null] ++ settledUntil 60 ++
    [.unsubscribe ⟨1, Situation.loneKey⟩] ++ settledUntil 0 ++
    [.subscribe "n" .null]

/-- The timer of the first one comes too early and is passed over; that of the second is not. -/
theorem collects_in_time_rejoined :
    ((start Situation.lone prompt ()).DropsNothingEarly (.wait 160 :: rejoined) ∧
      (start Situation.lone prompt ()).ForgetsNothing rejoined) ∧
    ((start Situation.lone prompt ()).idleSince Situation.loneKey rejoined = some 60 ∧
      ((start Situation.lone prompt ()).moved rejoined).now = 100 ∧
      ((start Situation.lone prompt ()).moved rejoined).agenda.ready.isEmpty = true ∧
      ((start Situation.lone prompt ()).moved (.wait 160 :: rejoined)).session.cache.contains
        Situation.loneKey = true ∧
      ((start Situation.lone prompt ()).moved (.work :: .wait 160 :: rejoined)).session.cache.contains
        Situation.loneKey = false) := by
  refine ⟨⟨?_, ?_⟩, by decide +kernel⟩
  · exact (collects_in_time Situation.lone prompt () (.wait 160 :: rejoined)).1
  · exact (collects_in_time Situation.lone prompt () rejoined).2 rfl (by decide)

/-- Among setups of this sort, entries are always dropped in time. -/
def CollectsAlways (scope : Setup → Prop) : Prop :=
  ∀ setup, scope setup → ∀ (answer : Request → Unit → Reply × Unit) (h : List Move),
    (start setup answer ()).DropsNothingEarly h ∧ (start setup answer ()).ForgetsNothing h

/-- `Situation.lone` without anybody to do the work in the background. -/
def unattended : Setup := { Situation.lone with background := false }

/-- `Situation.lone` with a grace period that no timer runs. -/
def patient : Setup :=
  { Situation.lone with options := { Situation.lone.options with keep := Timer.longest + 1 } }

/-- A subscriber comes and goes, and the grace period passes. -/
def departed (keep : Nat) : List Move :=
  settledUntil keep ++ settledUntil (keep - 1) ++
    [.unsubscribe ⟨1, Situation.loneKey⟩] ++ settledUntil 0 ++
    [.subscribe "n" .null]

/-- What is left when its grace period is over shows that there are exceptions. -/
theorem not_collectsAlways {setup : Setup} {scope : Setup → Prop} (hscope : scope setup)
    {h : List Move} {k : Key}
    (hready : ((start setup prompt ()).moved h).agenda.ready.isEmpty = true)
    (hidle : ((start setup prompt ()).moved h).session.isIdle k = true) {since : Nat}
    (hsince : (start setup prompt ()).idleSince k h = some since)
    (hover : since + setup.options.keep ≤ ((start setup prompt ()).moved h).now) :
    ¬ CollectsAlways scope := by
  intro halways
  have horderly := orderly_moved (orderly_start setup prompt ()) h
  obtain ⟨since', hsince', hwithin⟩ := (halways setup hscope prompt h).2
    (horderly.caughtUp (List.isEmpty_iff.mp hready)) k hidle
  cases hsince.symm.trans hsince'
  exact absurd hwithin (Nat.not_lt.mpr hover)

/-- Outside the background nobody drops the entry, and a timer that goes off after thirty years
comes too early for a longer grace period, and none comes after it. -/
theorem collection_forgets :
    ¬ CollectsAlways (fun setup => setup.options.keep ≤ Timer.longest) ∧
      ¬ CollectsAlways (fun setup => setup.background = true) := by
  have hfacts : ∀ setup, setup = unattended ∨ setup = patient →
      ((start setup prompt ()).moved (departed setup.options.keep)).agenda.ready.isEmpty = true ∧
        ((start setup prompt ()).moved (departed setup.options.keep)).session.isIdle
          Situation.loneKey = true ∧
        (start setup prompt ()).idleSince Situation.loneKey
          (departed setup.options.keep) = some 0 ∧
        0 + setup.options.keep ≤
          ((start setup prompt ()).moved (departed setup.options.keep)).now := by
    rintro setup (rfl | rfl) <;> decide +kernel
  constructor
  · obtain ⟨hready, hidle, hsince, hover⟩ := hfacts unattended (.inl rfl)
    exact not_collectsAlways (by decide) hready hidle hsince hover
  · obtain ⟨hready, hidle, hsince, hover⟩ := hfacts patient (.inr rfl)
    exact not_collectsAlways rfl hready hidle hsince hover

end Timeline

end QueryCache
