import QueryCache.Memo
/-!
# Remembering shows in nothing but identity

A memo keeps the last output and the stamps of the inputs that it was made from.  It keeps them over
calls with missing inputs, which it does not answer, and over calls with fewer inputs or more, which
it answers anew.  Nobody sees this in the values: as long as a stamp stands for one value, every
answer is what would have been computed from the inputs at hand.

What was given to whom is recorded call by call (`given`).  A memo that has been asked so far agrees
with the record (`Keeps`): it holds the latest output, and whoever was given that one had inputs with
the same stamps.  One call keeps this (`Keeps.select`), so every list of calls does (`keeps_after`).
-/

namespace QueryCache.Memo

/-- The inputs of a call, each of them there or missing. -/
abbrev Call := List (Option Version)

/-- The stamps of the inputs that are there. -/
def stamps (call : Call) : List (Option Nat) := call.map (Option.map Version.stamp)

/-- The inputs that are there in some calls. -/
def versions (calls : List Call) : List Version := calls.flatten.filterMap id

/-- A stamp stands for one value in all these calls. -/
def Immutable (calls : List Call) : Prop :=
  ∀ v ∈ versions calls, ∀ w ∈ versions calls, v.stamp = w.stamp → v = w

instance (calls : List Call) : Decidable (Immutable calls) :=
  inferInstanceAs (Decidable
    (∀ v ∈ versions calls, ∀ w ∈ versions calls, v.stamp = w.stamp → v = w))

variable {β : Type}

section Record

variable (compute : List Json → β)

/-- The memo after some calls, the latest first. -/
def after : List Call → Memo β
  | [] => .empty
  | call :: earlier => ((after earlier).select compute call).2

/-- What a call is answered after the earlier ones. -/
def answer (earlier : List Call) (call : Call) : Option (Derived β) :=
  ((after compute earlier).select compute call).1

/-- The outputs that were given and the calls that they were given to, the latest first. -/
def given : List Call → List (Call × Derived β)
  | [] => []
  | call :: earlier => match answer compute earlier call with
    | some output => (call, output) :: given earlier
    | none => given earlier

end Record

/-- How many of these outputs are another one than the output before. -/
def renewals : List (Derived β) → Nat
  | [] => 0
  | d :: earlier =>
    renewals earlier + if earlier.head?.map Derived.serial = some d.serial then 0 else 1

/-- A value given again is no renewal. -/
theorem renewals_again {d : Derived β} {earlier : List (Derived β)}
    (h : earlier.head?.map Derived.serial = some d.serial) :
    renewals (d :: earlier) = renewals earlier := by
  simp [renewals, h]

/-- A value that is computed anew is one. -/
theorem renewals_anew {d : Derived β} {earlier : List (Derived β)}
    (h : earlier.head?.map Derived.serial ≠ some d.serial) :
    renewals (d :: earlier) = renewals earlier + 1 := by
  simp [renewals, h]

/-! ## One call -/

variable {compute : List Json → β} {m : Memo β} {call : Call}

/-- An input is missing, or all are there. -/
theorem missing_or_there (call : Call) : none ∈ call ∨ ∃ inputs : List Version, call = inputs.map some := by
  induction call with
  | nil => exact Or.inr ⟨[], rfl⟩
  | cons input call ih =>
      cases input with
      | none => exact Or.inl List.mem_cons_self
      | some v =>
          rcases ih with hmissing | ⟨inputs, rfl⟩
          · exact Or.inl (List.mem_cons_of_mem _ hmissing)
          · exact Or.inr ⟨v :: inputs, rfl⟩

/-- Where an input is missing there are no inputs to compute from. -/
theorem mapM_of_missing (h : none ∈ call) : call.mapM id = none := by
  induction call with
  | nil => cases h
  | cons input call ih =>
      cases input with
      | none => rfl
      | some v =>
          have hlater : none ∈ call := by simpa using h
          simp [ih hlater]

/-- Where none is missing they are all there. -/
theorem mapM_of_there (inputs : List Version) : (inputs.map some).mapM id = some inputs := by
  induction inputs with
  | nil => rfl
  | cons v inputs ih => simp [ih]

/-- A call with an input missing is answered with nothing, and leaves the memo alone. -/
theorem select_of_missing (h : none ∈ call) : m.select compute call = (none, m) := by
  simp [select, mapM_of_missing h]

/-- The inputs are those that the last output was made from. -/
theorem select_same {inputs : List Version} {d : Derived β}
    (hlast : m.last = some (inputs.map Version.stamp, d)) :
    m.select compute (inputs.map some) = (some d, m) := by
  unfold select
  rw [mapM_of_there]
  simp [hlast]

/-- They are others. -/
theorem select_other {inputs : List Version}
    (hlast : ∀ d, m.last ≠ some (inputs.map Version.stamp, d)) :
    m.select compute (inputs.map some) =
      (some (m.recompute compute inputs).1, (m.recompute compute inputs).2) := by
  unfold select
  rw [mapM_of_there]
  cases hkept : m.last with
  | none => rfl
  | some kept =>
      obtain ⟨stamps, d⟩ := kept
      have hne : stamps ≠ inputs.map Version.stamp := by
        rintro rfl
        exact hlast d hkept
      simp [hne]

/-- The stamps of a call are those of its inputs. -/
theorem stamps_there (inputs : List Version) :
    stamps (inputs.map some) = (inputs.map Version.stamp).map some := by
  simp [stamps]

/-- As long as a stamp stands for one value, inputs are told by their stamps. -/
theorem Immutable.eq_of_stamps {calls : List Call} (h : Immutable calls)
    {inputs inputs' : List Version} (hinputs : ∀ v ∈ inputs, v ∈ versions calls)
    (hinputs' : ∀ v ∈ inputs', v ∈ versions calls)
    (hstamps : inputs.map Version.stamp = inputs'.map Version.stamp) : inputs = inputs' := by
  induction inputs generalizing inputs' with
  | nil => exact (List.map_eq_nil_iff.mp hstamps.symm).symm
  | cons v inputs ih =>
      obtain ⟨w, rest, rfl, hstamp, hrest⟩ := List.map_eq_cons_iff.mp hstamps.symm
      obtain ⟨hv, hinputs⟩ := List.forall_mem_cons.mp hinputs
      obtain ⟨hw, hinputs'⟩ := List.forall_mem_cons.mp hinputs'
      rw [h v hv w hw hstamp.symm, ih hinputs hinputs' hrest.symm]

/-- The inputs of a call are among the versions of all calls. -/
theorem mem_versions {calls : List Call} {inputs : List Version} (h : inputs.map some ∈ calls) :
    ∀ v ∈ inputs, v ∈ versions calls := by
  intro v hv
  have hflat : some v ∈ calls.flatten := List.mem_flatten.mpr ⟨_, h, List.mem_map_of_mem hv⟩
  exact List.mem_filterMap.mpr ⟨some v, hflat, rfl⟩

/-! ## All calls -/

/-- What a memo holds is the latest of the outputs that were given. -/
structure Keeps (compute : List Json → β) (record : List (Call × Derived β)) (m : Memo β) :
    Prop where
  latest : m.last.map Prod.snd = (record.map Prod.snd).head?
  /-- Whoever was given it had inputs with the stamps that are remembered. -/
  stamped : ∀ s d, m.last = some (s, d) → ∀ x ∈ record, x.2.serial = d.serial →
    stamps x.1 = s.map some
  /-- It was computed for one of them. -/
  computed : ∀ s d, m.last = some (s, d) → ∃ inputs : List Version,
    (inputs.map some, d) ∈ record ∧ d.value = compute (inputs.map Version.value)
  /-- No output has a number that is still to come. -/
  numbered : ∀ x ∈ record, x.2.serial ≤ m.computations
  counted : m.computations = renewals (record.map Prod.snd)

variable {record : List (Call × Derived β)}

/-- An empty memo keeps nothing, for nothing has been given. -/
theorem keeps_empty (compute : List Json → β) : Keeps compute [] .empty where
  latest := rfl
  stamped := nofun
  computed := nofun
  numbered := nofun
  counted := rfl

namespace Keeps

/-- The last output is given once more. -/
theorem again (h : Keeps compute record m) {inputs : List Version} {d : Derived β}
    (hlast : m.last = some (inputs.map Version.stamp, d)) :
    Keeps compute ((inputs.map some, d) :: record) m where
  latest := by rw [hlast]; rfl
  stamped := by
    intro s d' hs x hx hserial
    obtain ⟨rfl, rfl⟩ := Prod.mk.inj (Option.some.inj (hlast.symm.trans hs))
    rcases List.mem_cons.mp hx with rfl | hold
    · exact stamps_there inputs
    · exact h.stamped _ _ hs x hold hserial
  computed := by
    intro s d' hs
    obtain ⟨made, hmade, hvalue⟩ := h.computed s d' hs
    exact ⟨made, List.mem_cons_of_mem _ hmade, hvalue⟩
  numbered := by
    obtain ⟨made, hmade, -⟩ := h.computed _ _ hlast
    have hle : d.serial ≤ m.computations := h.numbered _ hmade
    exact List.forall_mem_cons.mpr ⟨hle, h.numbered⟩
  counted := by
    have hsame : (record.map Prod.snd).head?.map Derived.serial = some d.serial := by
      rw [← h.latest, hlast]
      rfl
    rw [List.map_cons, renewals_again hsame]
    exact h.counted

/-- Another output is computed and given. -/
theorem anew (h : Keeps compute record m) (inputs : List Version) :
    Keeps compute ((inputs.map some, (m.recompute compute inputs).1) :: record)
      (m.recompute compute inputs).2 where
  latest := rfl
  stamped := by
    intro s d hs x hx hserial
    obtain ⟨rfl, rfl⟩ := Prod.mk.inj (Option.some.inj hs)
    rcases List.mem_cons.mp hx with rfl | hold
    · exact stamps_there inputs
    · have hle := h.numbered x hold
      have hnew : x.2.serial = m.computations + 1 := hserial
      omega
  computed := by
    intro s d hs
    obtain ⟨rfl, rfl⟩ := Prod.mk.inj (Option.some.inj hs)
    exact ⟨inputs, List.mem_cons_self, rfl⟩
  numbered := by
    refine List.forall_mem_cons.mpr ⟨Nat.le_refl _, fun x hx => ?_⟩
    exact Nat.le_succ_of_le (h.numbered x hx)
  counted := by
    have hother : (record.map Prod.snd).head?.map Derived.serial ≠ some (m.computations + 1) := by
      intro hhead
      obtain ⟨d, hd, hserial⟩ := Option.map_eq_some_iff.mp hhead
      obtain ⟨x, hx, rfl⟩ := List.mem_map.mp (List.mem_of_head? hd)
      have hle := h.numbered x hx
      omega
    rw [List.map_cons, renewals_anew hother]
    exact congrArg (· + 1) h.counted

/-- **One call.**  The record grows by what it is answered, if it is. -/
theorem select (h : Keeps compute record m) (call : Call) :
    Keeps compute
      (match (m.select compute call).1 with
        | some output => (call, output) :: record
        | none => record)
      (m.select compute call).2 := by
  rcases missing_or_there call with hmissing | ⟨inputs, rfl⟩
  · rw [select_of_missing hmissing]
    exact h
  · by_cases hlast : ∃ d, m.last = some (inputs.map Version.stamp, d)
    · obtain ⟨d, hlast⟩ := hlast
      rw [select_same hlast]
      exact h.again hlast
    · rw [select_other (not_exists.mp hlast)]
      exact h.anew inputs

end Keeps

/-- After every list of calls the memo keeps what was given last. -/
theorem keeps_after (compute : List Json → β) (calls : List Call) :
    Keeps compute (given compute calls) (after compute calls) := by
  induction calls with
  | nil => exact keeps_empty compute
  | cons call earlier ih => exact ih.select call

/-- Only who has called was given anything. -/
theorem mem_of_given {calls : List Call} {x : Call × Derived β} (h : x ∈ given compute calls) :
    x.1 ∈ calls := by
  induction calls with
  | nil => cases h
  | cons call earlier ih =>
      unfold given at h
      split at h
      · rcases List.mem_cons.mp h with rfl | hold
        · exact List.mem_cons_self
        · exact List.mem_cons_of_mem _ (ih hold)
      · exact List.mem_cons_of_mem _ (ih h)

/-! ## What an answer is -/

variable {calls : List Call} {inputs : List Version} {d last : Derived β}

/-- A call with all its inputs is given the output that is remembered for them, or else a new one. -/
theorem answer_cases (compute : List Json → β) (calls : List Call) (inputs : List Version) :
    ∃ d, answer compute calls (inputs.map some) = some d ∧
      ((after compute calls).last = some (inputs.map Version.stamp, d) ∨
        (∀ d', (after compute calls).last ≠ some (inputs.map Version.stamp, d')) ∧
          d = ⟨(after compute calls).computations + 1, compute (inputs.map Version.value)⟩) := by
  unfold answer
  by_cases hlast : ∃ d, (after compute calls).last = some (inputs.map Version.stamp, d)
  · obtain ⟨d, hlast⟩ := hlast
    rw [select_same hlast]
    exact ⟨d, rfl, Or.inl hlast⟩
  · have hother := not_exists.mp hlast
    rw [select_other hother]
    exact ⟨_, rfl, Or.inr ⟨hother, rfl⟩⟩

/-- There is no answer just when an input is missing. -/
theorem answer_eq_none_iff : answer compute calls call = none ↔ none ∈ call := by
  rcases missing_or_there call with hmissing | ⟨inputs, rfl⟩
  · simp [answer, select_of_missing hmissing, hmissing]
  · obtain ⟨d, hd, -⟩ := answer_cases compute calls inputs
    simp [hd]

/-- What is remembered for some inputs was computed from them. -/
theorem value_of_last (h : Immutable (inputs.map some :: calls))
    (hlast : (after compute calls).last = some (inputs.map Version.stamp, d)) :
    d.value = compute (inputs.map Version.value) := by
  have hkeeps := keeps_after compute calls
  obtain ⟨made, hmade, hvalue⟩ := hkeeps.computed _ _ hlast
  have hstamps := hkeeps.stamped _ _ hlast _ hmade rfl
  rw [stamps_there] at hstamps
  have hsame : made = inputs := by
    apply h.eq_of_stamps
    · exact mem_versions (List.mem_cons_of_mem _ (mem_of_given hmade))
    · exact mem_versions List.mem_cons_self
    · exact (List.map_inj_right fun _ _ => Option.some.inj).mp hstamps
  rw [hvalue, hsame]

/-- Whoever was given the latest output, the memo remembers it for inputs with these stamps. -/
theorem Keeps.stamps_eq_iff (h : Keeps compute record m)
    (hlatest : (record.map Prod.snd).head? = some last) {x : Call × Derived β} (hx : x ∈ record)
    (hserial : x.2.serial = last.serial) :
    stamps (inputs.map some) = stamps x.1 ↔ m.last = some (inputs.map Version.stamp, last) := by
  rw [← h.latest] at hlatest
  obtain ⟨⟨s, _⟩, hlast, rfl⟩ := Option.map_eq_some_iff.mp hlatest
  rw [h.stamped s _ hlast x hx hserial, stamps_there, hlast,
    List.map_inj_right fun _ _ => Option.some.inj]
  simp only [Option.some.injEq, Prod.mk.injEq, and_true]
  exact eq_comm

/-- **Remembering shows in nothing but identity.**  Whatever a memo was asked before, with inputs of
any number, some of them perhaps missing: it answers a call exactly if no input is missing, and what
it answers is computed from the inputs at hand.  That is the same output as the last one given, in
all and not only by its number, exactly if the inputs have the stamps that they have in any call
which was given the last one.  As many computations were made as outputs were given that were others
than the output before. -/
theorem remembered_unseen (compute : List Json → β) (calls : List Call) (call : Call)
    (h : Immutable (call :: calls)) :
    (answer compute calls call = none ↔ none ∈ call) ∧
    (∀ inputs : List Version, call = inputs.map some → ∃ d, answer compute calls call = some d ∧
      d.value = compute (inputs.map Version.value) ∧
      ∀ last, ((given compute calls).map Prod.snd).head? = some last →
        (d.serial = last.serial → d = last) ∧
        ∀ x ∈ given compute calls, x.2.serial = last.serial →
          (d.serial = last.serial ↔ stamps call = stamps x.1)) ∧
    (after compute calls).computations = renewals ((given compute calls).map Prod.snd) := by
  have hkeeps := keeps_after compute calls
  refine ⟨answer_eq_none_iff, ?_, hkeeps.counted⟩
  rintro inputs rfl
  obtain ⟨d, hanswer, hlast | ⟨hother, rfl⟩⟩ := answer_cases compute calls inputs
  · refine ⟨d, hanswer, value_of_last h hlast, fun last hlatest => ?_⟩
    obtain rfl : d = last := by
      rw [← hkeeps.latest, hlast] at hlatest
      exact Option.some.inj hlatest
    refine ⟨fun _ => rfl, fun x hx hserial => ?_⟩
    exact iff_of_true rfl ((hkeeps.stamps_eq_iff hlatest hx hserial).mpr hlast)
  · refine ⟨_, hanswer, rfl, fun last hlatest => ?_⟩
    have hnew : (after compute calls).computations + 1 ≠ last.serial := by
      obtain ⟨y, hy, rfl⟩ := List.mem_map.mp (List.mem_of_head? hlatest)
      have hle := hkeeps.numbered y hy
      omega
    refine ⟨fun hserial => absurd hserial hnew, fun x hx hserial => iff_of_false hnew ?_⟩
    intro hstamps
    exact hother last ((hkeeps.stamps_eq_iff hlatest hx hserial).mp hstamps)

/-- Two versions with equal values. -/
def pair : Version × Version := (⟨0, .num (.int 7)⟩, ⟨1, .num (.int 7)⟩)

/-- The first version, then both, then a missing one and the first, then the second. -/
def consultations : List Call :=
  [[some pair.2], [none, some pair.1], [some pair.1, some pair.2], [some pair.1]]

/-- Going back to the first version takes a fourth computation, and doing so again does not. -/
theorem remembered_unseen_again :
    Immutable ([some pair.1] :: [some pair.1] :: consultations) ∧
    (after List.length ([some pair.1] :: consultations)).computations = 4 ∧
    ∃ d, answer List.length ([some pair.1] :: consultations) [some pair.1] = some d ∧
      d.value = 1 ∧ d.serial = 4 := by
  have himmutable : Immutable ([some pair.1] :: [some pair.1] :: consultations) := by decide
  obtain ⟨-, hgiven, hcount⟩ := remembered_unseen List.length ([some pair.1] :: consultations)
    [some pair.1] himmutable
  obtain ⟨d, hanswer, hvalue, hidentity⟩ := hgiven [pair.1] rfl
  refine ⟨himmutable, hcount, d, hanswer, hvalue, ?_⟩
  obtain ⟨-, hsame⟩ := hidentity ⟨4, 1⟩ rfl
  exact (hsame _ List.mem_cons_self rfl).mpr rfl

end QueryCache.Memo
