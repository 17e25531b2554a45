import QueryCache.Proofs.Replay
/-!
# A write that is taken back leaves no trace

Of one call a client keeps the overlay and the version that is shown, and four things can happen
to them: an edit is laid on top, the edits of a write are made part of the base, those of a write
are taken back, a fetched value is put underneath.  A `Showing` is that state, a `Turn` one of the
four.

What makes two courses hard to compare is that an overlay comes and goes: with one write more it
may be there when another is confirmed or a fetch lands, and without that write not, and the base
is then taken from what is shown at another moment.  A `Ledger` has none of this.  It holds a base
and the pending edits at every moment, and every turn is a plain function of it (`Ledger.turn`).
The overlays keep such a ledger (`Showing.Keeps`), and what is shown is the base with the pending
edits made on it.

* `keeps_run` — the overlays keep the ledger through every course.
* `Ledger.without_run` — striking a write's edits off at the end is the same as leaving its turns
  out of the course.
* `rolled_back_without_trace` — so a write that was never confirmed and has been taken back is as if
  it had never been.
-/

namespace QueryCache

/-- What can happen to the edits of one call. -/
inductive Turn where
  | apply (write : Nat) (edit : Edit)
  | commit (write : Nat) (response : Json)
  | rollback (write : Nat)
  | rebase (fetched : Version)
deriving DecidableEq

/-- The write that a turn is of.  A fetched value is of none. -/
def Turn.write? : Turn → Option Nat
  | .apply write _ => some write
  | .commit write _ => some write
  | .rollback write => some write
  | .rebase _ => none

/-- A call with the version that is shown of it. -/
structure Showing where
  overlays : Overlays
  shown : Version

namespace Showing

/-- An operation that may leave what is shown as it is. -/
def become (d : Showing) (result : Option Version × Overlays) : Showing where
  overlays := result.2
  shown := result.1.getD d.shown

/-- Every edit is laid over what the turn before it has shown. -/
def turn (k : Key) (d : Showing) : Turn → Showing
  | .apply write edit =>
    let (shown, overlays) := d.overlays.apply write k d.shown edit
    ⟨overlays, shown⟩
  | .commit write response => d.become (d.overlays.commit write k response)
  | .rollback write => d.become (d.overlays.rollback write k)
  | .rebase fetched =>
    let (shown, overlays) := d.overlays.rebase k fetched
    ⟨overlays, shown⟩

/-- The course of some turns, the earliest first. -/
def run (k : Key) (d : Showing) (turns : List Turn) : Showing := turns.foldl (turn k) d

/-- The overlay of the call.  Where there is none, what is shown is the base. -/
def overlay (d : Showing) (k : Key) : Overlay := d.overlays.logOn k d.shown

end Showing

/-- A base and the edits that are pending on it. -/
structure Ledger where
  base : Json
  pending : List PendingEdit

namespace Ledger

/-- The pending edits of a write. -/
def own (l : Ledger) (write : Nat) : List PendingEdit := l.pending.filter fun p => p.write == write

/-- The ledger without the pending edits of a write. -/
def without (l : Ledger) (write : Nat) : Ledger :=
  { l with pending := l.pending.filter fun p => !(p.write == write) }

/-- The base with the edits of a write made part of it. -/
def settledBase (l : Ledger) (idField : String) (write : Nat) (response : Json) : Json :=
  (l.own write).foldl (fun v p => p.edit.settled idField response v) l.base

def turn (idField : String) (l : Ledger) : Turn → Ledger
  | .apply write edit => { l with pending := l.pending ++ [⟨write, edit⟩] }
  | .commit write response =>
    { l.without write with base := l.settledBase idField write response }
  | .rollback write => l.without write
  | .rebase fetched => { l with base := fetched.value }

def run (idField : String) (l : Ledger) (turns : List Turn) : Ledger :=
  turns.foldl (turn idField) l

variable {idField : String} {l : Ledger} {write m : Nat}

/-! ## Leaving a write out -/

/-- The edits of the other writes are still there. -/
theorem own_without (h : write ≠ m) : (l.without m).own write = l.own write := by
  simp only [own, without, List.filter_filter]
  refine List.filter_congr fun p _ => ?_
  by_cases hp : p.write = write
  · simp [hp, h]
  · simp [hp]

/-- It is all the same which write is left out first. -/
theorem without_comm (l : Ledger) (write m : Nat) :
    (l.without write).without m = (l.without m).without write := by
  simp only [without, List.filter_filter, Bool.and_comm]

theorem without_without : (l.without m).without m = l.without m := by
  simp only [without, List.filter_filter, Bool.and_self]

/-- A turn of another write does the same to the ledger without a write. -/
theorem without_turn {t : Turn} (h : t.write? ≠ some m) :
    (l.turn idField t).without m = (l.without m).turn idField t := by
  cases t with
  | apply write edit =>
      have hother : write ≠ m := fun heq => h (congrArg some heq)
      simp [turn, without, hother]
  | commit write response =>
      have hother : write ≠ m := fun heq => h (congrArg some heq)
      have hown := own_without (l := l) hother
      have hrest := without_comm l write m
      have hbase : (l.without m).settledBase idField write response =
          l.settledBase idField write response := by
        unfold settledBase
        rw [hown]
        rfl
      simp only [turn, hbase]
      rw [← hrest]
      rfl
  | rollback write => exact without_comm l write m
  | rebase fetched => rfl

/-- A turn of the write itself is not seen in the ledger without it, unless the write is
confirmed. -/
theorem without_turn_self {t : Turn} (h : t.write? = some m)
    (huncommitted : ∀ response, t ≠ .commit m response) :
    (l.turn idField t).without m = l.without m := by
  cases t with
  | apply write edit =>
      obtain rfl : write = m := Option.some.inj h
      simp [turn, without]
  | commit write response =>
      obtain rfl : write = m := Option.some.inj h
      exact absurd rfl (huncommitted response)
  | rollback write =>
      obtain rfl : write = m := Option.some.inj h
      exact without_without
  | rebase fetched => cases h

/-- **Leaving a write out.**  As long as it is not confirmed, its edits may be struck off at the end
or its turns left out from the beginning. -/
theorem without_run {turns : List Turn} (huncommitted : ∀ response, .commit m response ∉ turns) :
    (l.run idField turns).without m =
      (l.without m).run idField (turns.filter fun t => t.write? ≠ some m) := by
  induction turns generalizing l with
  | nil => rfl
  | cons t rest ih =>
      have hrest : ∀ response, .commit m response ∉ rest :=
        fun response hmem => huncommitted response (List.mem_cons_of_mem t hmem)
      have hrun := ih (l := l.turn idField t) hrest
      by_cases hself : t.write? = some m
      · have hturn : (l.turn idField t).without m = l.without m := by
          refine without_turn_self hself fun response heq => ?_
          exact huncommitted response (heq ▸ List.mem_cons_self)
        rw [hturn] at hrun
        simpa [run, hself] using hrun
      · rw [without_turn hself] at hrun
        simpa [run, hself] using hrun

/-- Nothing of a write is pending. -/
def FreeOf (l : Ledger) (m : Nat) : Prop := ∀ p ∈ l.pending, p.write ≠ m

/-- Without a write nothing of it is pending. -/
theorem freeOf_without : (l.without m).FreeOf m := by
  intro p hp
  simpa using (List.mem_filter.mp hp).2

/-- Where nothing of a write is pending, leaving it out changes nothing. -/
theorem FreeOf.without_eq (h : l.FreeOf m) : l.without m = l := by
  have hall : l.pending.filter (fun p => !(p.write == m)) = l.pending :=
    List.filter_eq_self.mpr fun p hp => by simpa using h p hp
  unfold without
  rw [hall]

/-- A turn that lays none of its edits leaves a write without any. -/
theorem FreeOf.turn (h : l.FreeOf m) {t : Turn} (hlast : ∀ edit, t ≠ .apply m edit) :
    (l.turn idField t).FreeOf m := by
  intro p hp
  cases t with
  | apply write edit =>
      rcases List.mem_append.mp hp with hold | hnew
      · exact h p hold
      · obtain rfl := List.mem_singleton.mp hnew
        exact fun heq => hlast edit (congrArg (Turn.apply · edit) heq)
  | commit write response => exact h p (List.mem_filter.mp hp).1
  | rollback write => exact h p (List.mem_filter.mp hp).1
  | rebase fetched => exact h p hp

/-- A course that lays none of its edits leaves a write without any. -/
theorem FreeOf.run (h : l.FreeOf m) {turns : List Turn}
    (hlast : ∀ edit, .apply m edit ∉ turns) : (l.run idField turns).FreeOf m := by
  induction turns generalizing l with
  | nil => exact h
  | cons t rest ih =>
      refine ih (h.turn fun edit heq => ?_) fun edit hmem => ?_
      · exact hlast edit (heq ▸ List.mem_cons_self)
      · exact hlast edit (List.mem_cons_of_mem t hmem)

end Ledger

namespace Showing

variable {d : Showing} {k : Key} {idField : String} {l : Ledger}

/-- The overlays keep a ledger: they hold its base and its edits, and these are shown. -/
structure Keeps (d : Showing) (k : Key) (idField : String) (l : Ledger) : Prop where
  field : d.overlays.idField = idField
  base : (d.overlay k).base.value = l.base
  pending : (d.overlay k).pending = l.pending
  shown : d.shown.value = replay idField l.base l.pending

/-- Where there is no overlay, nothing is pending on what is shown. -/
theorem overlay_of_none (hnone : d.overlays.get? k = none) : d.overlay k = ⟨d.shown, []⟩ := by
  unfold overlay Overlays.logOn
  rw [hnone]
  rfl

theorem overlay_of_some {log : Overlay} (hsome : d.overlays.get? k = some log) :
    d.overlay k = log := by
  unfold overlay Overlays.logOn
  rw [hsome]
  rfl

/-- An edit goes to the end of the ledger. -/
theorem keeps_apply (h : d.Keeps k idField l) (write : Nat) (edit : Edit) :
    (d.turn k (.apply write edit)).Keeps k idField (l.turn idField (.apply write edit)) := by
  have hget : (d.turn k (.apply write edit)).overlays.get? k =
      some ⟨(d.overlay k).base, (d.overlay k).pending ++ [⟨write, edit⟩]⟩ :=
    (d.overlays.get?_apply write k d.shown edit k).trans (if_pos rfl)
  have hoverlay := overlay_of_some hget
  refine ⟨h.field, ?_, ?_, ?_⟩
  · rw [hoverlay]
    exact h.base
  · rw [hoverlay]
    exact congrArg (· ++ [⟨write, edit⟩]) h.pending
  · change edit.apply d.overlays.idField d.shown.value = replay idField l.base (l.pending ++ _)
    rw [replay_append, ← h.shown, h.field]
    rfl

/-- An overlay that is settled is kept as long as edits are pending, and shown in any case. -/
theorem keeps_settle {o : Overlays} (hidField : o.idField = idField) (log : Overlay) :
    Keeps ⟨(o.settle k log).2, (o.settle k log).1⟩ k idField ⟨log.base.value, log.pending⟩ := by
  have hget := (o.get?_settle k log k).trans (if_pos rfl)
  have hvalue := o.value_settle k log
  rw [hidField] at hvalue
  by_cases hempty : log.pending = []
  · rw [if_pos hempty] at hget
    have hoverlay := overlay_of_none (d := ⟨(o.settle k log).2, (o.settle k log).1⟩) hget
    have hbase : (o.settle k log).1.value = log.base.value := by
      rw [hvalue, hempty]
      rfl
    refine ⟨(o.idField_settle k log).trans hidField, ?_, ?_, hvalue⟩
    · rw [hoverlay]
      exact hbase
    · rw [hoverlay]
      exact hempty.symm
  · rw [if_neg hempty] at hget
    have hoverlay := overlay_of_some (d := ⟨(o.settle k log).2, (o.settle k log).1⟩) hget
    refine ⟨(o.idField_settle k log).trans hidField, ?_, ?_, hvalue⟩
    · rw [hoverlay]
    · rw [hoverlay]

/-- The edits of a write in the overlay of a call are those in the ledger. -/
theorem Keeps.own_eq (h : d.Keeps k idField l) {log : Overlay}
    (hlog : d.overlays.get? k = some log) (write : Nat) :
    log.pending.filter (fun p => p.write == write) = l.own write := by
  rw [← overlay_of_some hlog, h.pending]
  rfl

/-- The log without a write has the edits of the ledger without it. -/
theorem Keeps.rest_eq (h : d.Keeps k idField l) {log : Overlay}
    (hlog : d.overlays.get? k = some log) (write : Nat) :
    log.pending.filter (fun p => !(p.write == write)) = (l.without write).pending := by
  rw [← overlay_of_some hlog, h.pending]
  rfl

/-- Without an overlay a write has no edits. -/
theorem Keeps.own_of_none (h : d.Keeps k idField l) (hnone : d.overlays.get? k = none)
    (write : Nat) : l.own write = [] := by
  have hpending := h.pending
  rw [overlay_of_none hnone] at hpending
  unfold Ledger.own
  rw [← hpending]
  rfl

/-- To a ledger without edits of a write, neither its confirmation nor its end does anything. -/
theorem without_of_own {write : Nat} (hown : l.own write = []) : l.without write = l := by
  refine Ledger.FreeOf.without_eq fun p hp heq => ?_
  have hnot := List.filter_eq_nil_iff.mp hown p hp
  exact hnot (beq_iff_eq.mpr heq)

/-- A write without pending edits leaves the base as it is. -/
theorem settledBase_of_own {write : Nat} {response : Json} (hown : l.own write = []) :
    l.settledBase idField write response = l.base := by
  unfold Ledger.settledBase
  rw [hown]
  rfl

/-- The edits of a write taken back leave the ledger. -/
theorem keeps_rollback (h : d.Keeps k idField l) (write : Nat) :
    (d.turn k (.rollback write)).Keeps k idField (l.turn idField (.rollback write)) := by
  change (d.become (d.overlays.rollback write k)).Keeps k idField (l.without write)
  unfold Overlays.rollback
  cases hlog : d.overlays.get? k with
  | none =>
      rw [without_of_own (h.own_of_none hlog write)]
      exact h
  | some log =>
      have hown := h.own_eq hlog write
      simp only [List.partition_eq_filter_filter, hown]
      by_cases hempty : l.own write = []
      · simp only [hempty, List.isEmpty_nil, if_true]
        rw [without_of_own hempty]
        exact h
      · have hfull : (l.own write).isEmpty = false := by simpa using hempty
        have hsettled := keeps_settle (k := k) h.field ⟨log.base, (l.without write).pending⟩
        have hbase := h.base
        rw [overlay_of_some hlog] at hbase
        simp only [hfull, Bool.false_eq_true, if_false, Function.comp_def]
        rw [h.rest_eq hlog write]
        rw [hbase] at hsettled
        exact hsettled

/-- The edits of a confirmed write become part of the base of the ledger. -/
theorem keeps_commit (h : d.Keeps k idField l) (write : Nat) (response : Json) :
    (d.turn k (.commit write response)).Keeps k idField
      (l.turn idField (.commit write response)) := by
  change (d.become (d.overlays.commit write k response)).Keeps k idField
    ⟨l.settledBase idField write response, (l.without write).pending⟩
  unfold Overlays.commit
  cases hlog : d.overlays.get? k with
  | none =>
      have hown := h.own_of_none hlog write
      rw [settledBase_of_own hown, without_of_own hown]
      exact h
  | some log =>
      have hown := h.own_eq hlog write
      simp only [List.partition_eq_filter_filter, hown]
      by_cases hempty : l.own write = []
      · simp only [hempty, List.isEmpty_nil, if_true]
        rw [settledBase_of_own hempty, without_of_own hempty]
        exact h
      · have hfull : (l.own write).isEmpty = false := by simpa using hempty
        have hbase := h.base
        rw [overlay_of_some hlog] at hbase
        have hvalue : (l.own write).foldl
            (fun v p => p.edit.settled d.overlays.idField response v) log.base.value =
            l.settledBase idField write response := by
          unfold Ledger.settledBase
          rw [h.field, hbase]
        simp only [hfull, Bool.false_eq_true, if_false, Function.comp_def, hvalue]
        rw [h.rest_eq hlog write]
        let minted := d.overlays.mint (l.settledBase idField write response)
        exact keeps_settle (o := minted.2) h.field ⟨minted.1, (l.without write).pending⟩

/-- A fetched value becomes the base of the ledger. -/
theorem keeps_rebase (h : d.Keeps k idField l) (fetched : Version) :
    (d.turn k (.rebase fetched)).Keeps k idField (l.turn idField (.rebase fetched)) := by
  change Keeps ⟨(d.overlays.rebase k fetched).2, (d.overlays.rebase k fetched).1⟩ k idField
    ⟨fetched.value, l.pending⟩
  have hpending := h.pending
  unfold Overlays.rebase
  cases hlog : d.overlays.get? k with
  | none =>
      rw [overlay_of_none hlog] at hpending
      have hoverlay := overlay_of_none (d := ⟨d.overlays, fetched⟩) hlog
      rw [← hpending]
      exact ⟨h.field, by rw [hoverlay], by rw [hoverlay], rfl⟩
  | some log =>
      rw [overlay_of_some hlog] at hpending
      rw [← hpending]
      exact keeps_settle h.field { log with base := fetched }

/-- **One turn keeps the ledger.** -/
theorem keeps_turn (h : d.Keeps k idField l) (t : Turn) :
    (d.turn k t).Keeps k idField (l.turn idField t) := by
  cases t with
  | apply write edit => exact keeps_apply h write edit
  | commit write response => exact keeps_commit h write response
  | rollback write => exact keeps_rollback h write
  | rebase fetched => exact keeps_rebase h fetched

/-- So does a whole course. -/
theorem keeps_run (h : d.Keeps k idField l) (turns : List Turn) :
    (d.run k turns).Keeps k idField (l.run idField turns) := by
  induction turns generalizing d l with
  | nil => exact h
  | cons t rest ih => exact ih (keeps_turn h t)

/-- Without an overlay the ledger is what is shown, and nothing is pending. -/
theorem keeps_start {o : Overlays} (hnone : o.get? k = none) (shown : Version) :
    Keeps ⟨o, shown⟩ k o.idField ⟨shown.value, []⟩ := by
  have hoverlay := overlay_of_none (d := ⟨o, shown⟩) hnone
  exact ⟨rfl, by rw [hoverlay], by rw [hoverlay], rfl⟩

/-- **A write that is taken back leaves no trace.**  A course begins without an overlay.  A write is
confirmed nowhere in it and taken back after its last edit.  From then on the same is shown, on the
same base and with the same edits pending, as in the course with all turns of that write left
out. -/
theorem rolled_back_without_trace {o : Overlays} (hnone : o.get? k = none) (shown : Version)
    {m : Nat} {before after : List Turn}
    (huncommitted : ∀ response, .commit m response ∉ before ++ .rollback m :: after)
    (hlast : ∀ edit, .apply m edit ∉ after) :
    let course := before ++ .rollback m :: after
    let left := run k ⟨o, shown⟩ course
    let never := run k ⟨o, shown⟩ (course.filter fun t => t.write? ≠ some m)
    left.shown.value = never.shown.value ∧
      (left.overlay k).base.value = (never.overlay k).base.value ∧
      (left.overlay k).pending = (never.overlay k).pending := by
  intro course left never
  let l : Ledger := ⟨shown.value, []⟩
  have hleft : left.Keeps k o.idField (l.run o.idField course) :=
    keeps_run (keeps_start hnone shown) course
  have hnever : never.Keeps k o.idField
      (l.run o.idField (course.filter fun t => t.write? ≠ some m)) :=
    keeps_run (keeps_start hnone shown) _
  have hsame : l.run o.idField course =
      l.run o.idField (course.filter fun t => t.write? ≠ some m) := by
    -- After the last turn of the write nothing of it is pending, so nothing is struck off.
    have hfree : (l.run o.idField course).FreeOf m := by
      have hsplit : l.run o.idField course =
          ((l.run o.idField before).without m).run o.idField after := by
        simp [course, Ledger.run, Ledger.turn]
      rw [hsplit]
      exact Ledger.freeOf_without.run hlast
    have hstart : l.without m = l := rfl
    calc l.run o.idField course
        = (l.run o.idField course).without m := hfree.without_eq.symm
      _ = (l.without m).run o.idField (course.filter fun t => t.write? ≠ some m) :=
        Ledger.without_run huncommitted
      _ = l.run o.idField (course.filter fun t => t.write? ≠ some m) := by rw [hstart]
  rw [hsame] at hleft
  exact ⟨hleft.shown.trans hnever.shown.symm, hleft.base.trans hnever.base.symm,
    hleft.pending.trans hnever.pending.symm⟩

/-- A record with a name, and the edit that changes the name. -/
def named (id : Int) (name : String) : Json := .obj [("id", .num (.int id)), ("name", .str name)]

def rename (id : Int) (name : String) : Edit :=
  .update (.num (.int id)) (.obj [("name", .str name)])

/-- Two writes edit one record, and the later one is confirmed first. -/
def overlapped : List Turn :=
  [.apply 1 (rename 1 "a"), .apply 2 (rename 1 "b"), .commit 2 .null]

/-- A third write finds the overlay of the first gone. -/
def afterwards : List Turn := [.apply 3 (rename 2 "c")]

/-- The later write is confirmed before the earlier is taken back. -/
theorem rolled_back_without_trace_overlapped :
    (∀ response, .commit 1 response ∉ overlapped ++ .rollback 1 :: afterwards) ∧
    (∀ edit, .apply 1 edit ∉ afterwards) ∧
    let course := overlapped ++ .rollback 1 :: afterwards
    let start : Showing := ⟨.empty "id", 0, .arr [named 1 "x", named 2 "y"]⟩
    let left := run ⟨"k"⟩ start course
    let never := run ⟨"k"⟩ start (course.filter fun t => t.write? ≠ some 1)
    left.shown.value = .arr [named 1 "b", named 2 "c"] ∧
      left.shown.value = never.shown.value ∧
      (left.overlay ⟨"k"⟩).base.value = (never.overlay ⟨"k"⟩).base.value ∧
      (left.overlay ⟨"k"⟩).pending = (never.overlay ⟨"k"⟩).pending := by
  have huncommitted : ∀ response,
      Turn.commit 1 response ∉ overlapped ++ .rollback 1 :: afterwards := by
    simp [overlapped, afterwards]
  have hlast : ∀ edit, Turn.apply 1 edit ∉ afterwards := by simp [afterwards]
  have hnone : (Overlays.empty "id").get? ⟨"k"⟩ = none := by simp [Overlays.empty, Overlays.get?]
  have hshown : (run ⟨"k"⟩ ⟨.empty "id", 0, .arr [named 1 "x", named 2 "y"]⟩
      (overlapped ++ .rollback 1 :: afterwards)).shown.value =
        .arr [named 1 "b", named 2 "c"] := by
    decide +kernel
  exact ⟨huncommitted, hlast, hshown,
    rolled_back_without_trace hnone ⟨0, .arr [named 1 "x", named 2 "y"]⟩ huncommitted hlast⟩

end Showing

end QueryCache
