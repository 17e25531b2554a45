import QueryCache.Overlay.Basic
/-!
# What the operations on overlays do to one key

Every operation that changes the edits pending at a key ends in `settle`, so one description of
`settle` serves all of them: what is shown is the base with the pending edits replayed, the log
stays exactly as long as there are any, and no other key is touched.

Taking back and confirming a write differ in the base they leave and agree in the rest: the edits
of the write are gone from the log (`Clears`).
-/

namespace QueryCache

/-- Edits are replayed one after the other. -/
theorem replay_append (idField : String) (value : Json) (l l' : List PendingEdit) :
    replay idField value (l ++ l') = replay idField (replay idField value l) l' :=
  List.foldl_append

namespace Overlays

variable {o o' : Overlays} {k k' : Key} {write : Nat}

/-- The overlays are the same but for the stamps given out. -/
structure Agrees (o o' : Overlays) : Prop where
  idField : o'.idField = o.idField
  get : ∀ k, o'.get? k = o.get? k

/-- Minting a version gives out a stamp and leaves the logs. -/
theorem agrees_mint (o : Overlays) (value : Json) : o.Agrees (o.mint value).2 :=
  ⟨rfl, fun _ => rfl⟩

/-- A log that is forgotten is gone, and no other. -/
theorem get?_forget (o : Overlays) (k k' : Key) :
    (o.forget k).get? k' = if k' = k then none else o.get? k' := by
  unfold forget get?
  rw [Std.ExtTreeMap.getElem?_erase]
  by_cases h : k' = k
  · simp [h]
  · simp [h, Ne.symm h]

/-- A log that is put in is there for its key alone. -/
theorem get?_insert (o : Overlays) (k : Key) (log : Overlay) (k' : Key) :
    ({ o with logs := o.logs.insert k log } : Overlays).get? k' =
      if k' = k then some log else o.get? k' := by
  unfold get?
  rw [Std.ExtTreeMap.getElem?_insert]
  by_cases h : k' = k
  · simp [h]
  · simp [h, Ne.symm h]

/-- The log of a key, or an empty one on what is shown. -/
def logOn (o : Overlays) (k : Key) (shown : Version) : Overlay := (o.get? k).getD ⟨shown, []⟩

/-- An edit is put at the end of its key's log, or into a new one on what is shown. -/
theorem get?_apply (o : Overlays) (write : Nat) (k : Key) (shown : Version) (e : Edit) (k' : Key) :
    (o.apply write k shown e).2.get? k' =
      if k' = k then
        some ⟨(o.logOn k shown).base, (o.logOn k shown).pending ++ [⟨write, e⟩]⟩
      else o.get? k' :=
  get?_insert o k _ k'

/-! ## Settling -/

/-- Where no edit is left, the base is what is shown. -/
theorem settle_of_empty (o : Overlays) (k : Key) {log : Overlay} (hempty : log.pending = []) :
    o.settle k log = (log.base, o.forget k) := by
  unfold settle
  rw [hempty]
  rfl

/-- What is shown afterwards is the base with the edits replayed. -/
theorem value_settle (o : Overlays) (k : Key) (log : Overlay) :
    (o.settle k log).1.value = replay o.idField log.base.value log.pending := by
  unfold settle
  cases hpending : log.pending with
  | nil => rfl
  | cons p rest => rfl

theorem idField_settle (o : Overlays) (k : Key) (log : Overlay) :
    (o.settle k log).2.idField = o.idField := by
  unfold settle
  split <;> rfl

/-- A log stays as long as an edit is left in it. -/
theorem get?_settle (o : Overlays) (k : Key) (log : Overlay) (k' : Key) :
    (o.settle k log).2.get? k' =
      if k' = k then if log.pending = [] then none else some log else o.get? k' := by
  unfold settle
  cases hpending : log.pending with
  | nil => simpa using get?_forget o k k'
  | cons p rest =>
      have hinsert := get?_insert o k log k'
      simp only [List.isEmpty_cons, Bool.false_eq_true, if_false, reduceCtorEq]
      exact hinsert

/-! ## Taking the edits of a write out -/

/-- The edits of a write are taken out of the log of a key, and what is left is settled on some
base. -/
def Clears (write : Nat) (o : Overlays) (k : Key) (result : Option Version × Overlays) : Prop :=
  (result = (none, o) ∧ ∀ log, o.get? k = some log → ∀ p ∈ log.pending, p.write ≠ write) ∨
  ∃ o₀ log base rest, o.Agrees o₀ ∧ o.get? k = some log ∧
    rest = log.pending.filter (fun p => !(p.write == write)) ∧
    result = (some (o₀.settle k ⟨base, rest⟩).1, (o₀.settle k ⟨base, rest⟩).2)

/-- A log without edits of a write. -/
theorem none_of_filter_isEmpty {l : List PendingEdit}
    (h : (l.filter fun p => p.write == write).isEmpty = true) : ∀ p ∈ l, p.write ≠ write := by
  intro p hp heq
  have hnone : l.filter (fun p => p.write == write) = [] := List.isEmpty_iff.mp h
  exact absurd (beq_iff_eq.mpr heq) (List.filter_eq_nil_iff.mp hnone p hp)

/-- Taking a write back clears it out of the log. -/
theorem clears_rollback (write : Nat) (o : Overlays) (k : Key) :
    Clears write o k (o.rollback write k) := by
  unfold rollback
  cases hlog : o.get? k with
  | none => exact Or.inl ⟨rfl, fun log h => by rw [hlog] at h; cases h⟩
  | some log =>
      simp only [List.partition_eq_filter_filter]
      cases hown : (log.pending.filter fun p => p.write == write).isEmpty with
      | true =>
          refine Or.inl ⟨rfl, fun log' h => ?_⟩
          obtain rfl := Option.some.inj (hlog.symm.trans h)
          exact none_of_filter_isEmpty hown
      | false => exact Or.inr ⟨o, log, log.base, _, ⟨rfl, fun _ => rfl⟩, hlog, rfl, rfl⟩

/-- Confirming a write clears it out of the log. -/
theorem clears_commit (write : Nat) (response : Json) (o : Overlays) (k : Key) :
    Clears write o k (o.commit write k response) := by
  unfold commit
  cases hlog : o.get? k with
  | none => exact Or.inl ⟨rfl, fun log h => by rw [hlog] at h; cases h⟩
  | some log =>
      simp only [List.partition_eq_filter_filter]
      cases hown : (log.pending.filter fun p => p.write == write).isEmpty with
      | true =>
          refine Or.inl ⟨rfl, fun log' h => ?_⟩
          obtain rfl := Option.some.inj (hlog.symm.trans h)
          exact none_of_filter_isEmpty hown
      | false => exact Or.inr ⟨_, log, _, _, agrees_mint o _, hlog, rfl, rfl⟩

end Overlays

end QueryCache
