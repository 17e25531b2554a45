import Mathlib.Data.List.Nodup
import Mathlib.Data.List.Pairwise
import QueryCache.Proofs.Retraction
import QueryCache.Proofs.Settlement
/-!
# Writes of different records

Several writes change and delete records of one value, each of them others.  Then it is of no account
how their turns fall: when the last of them is confirmed or taken back, the value is the one on which
the confirmed ones have been made in turn, in whatever order (`settled_in_any_order`).

Two things come together for this.  An edit of a record that is there (`Edit.InPlace`) does one thing
to every record, wherever it stands, and leaves it its id.  So of two edits that name different ids
none changes what the other one finds (`Edit.onRecord_comm`), and whole writes commute as well
(`Plan.commutes_of_apart`).

And along a course the turns that have brought the pending edits of a write make up, with its turns
that are still to come, all of its turns (`Due`).  So each write is settled with all of its edits, and
on the base, although the overlay may be gone at times and the base be taken anew from what is shown.
-/

namespace QueryCache

/-- Whatever has an id that is an integer or a text is written like it. -/
theorem written_of_sameId {own id : Json} (hid : id.IsId) (h : sameId own id = true) :
    own.written = id.written := by
  by_cases hown : own.IsId
  · exact (sameId_iff hown hid).mp h
  · match own, id, hid with
    | .str _, _, _ | .num (.int _), _, _ => exact absurd trivial hown
    | .null, .str _, _ | .bool _, .str _, _ | .num (.float _), .str _, _ | .arr _, .str _, _
    | .obj _, .str _, _ => exact beq_iff_eq.mp h
    | .null, .num (.int _), _ | .bool _, .num (.int _), _ | .num (.float _), .num (.int _), _
    | .arr _, .num (.int _), _ | .obj _, .num (.int _), _ => cases h

/-- Merging makes an object of an object alone. -/
theorem Json.isObject_merge (record changes : Json) :
    (record.merge changes).isObject = record.isObject := by
  cases record <;> cases changes <;> rfl

namespace Edit

variable {idField : String} {e e' : Edit} {record left value id response : Json}

/-- The edit changes or deletes a record that it names by an integer or a text, and a change leaves
the record its id. -/
def InPlace (idField : String) : Edit → Prop
  | .insert _ _ => False
  | .update id changes => id.IsId ∧ changes.FieldsDistinct ∧
      ∀ own, changes.field? idField = some own → sameId own id = true
  | .delete id => id.IsId

instance (idField : String) (e : Edit) : Decidable (e.InPlace idField) :=
  match e with
  | .insert _ _ => isFalse nofun
  | .update id changes => decidable_of_iff
      (id.IsId ∧ changes.FieldsDistinct ∧
        (changes.field? idField).all (fun own => sameId own id))
      (by simp only [Option.all_eq_true]; rfl)
  | .delete id => inferInstanceAs (Decidable id.IsId)

/-- The edits name different ids. -/
def Apart (idField : String) (e e' : Edit) : Prop :=
  ∀ i j, e.id? idField = some i → e'.id? idField = some j → sameId i j = false

instance (idField : String) (e e' : Edit) : Decidable (e.Apart idField e') :=
  decidable_of_iff ((e.id? idField).all fun i => (e'.id? idField).all fun j => !sameId i j)
    (by
      simp only [Option.all_eq_true, Bool.not_eq_true']
      exact ⟨fun h i j hi hj => h i hi j hj, fun h i hi j hj => h i j hi hj⟩)

/-- What becomes of a single record. -/
def onRecord (idField : String) (e : Edit) (record : Json) : Option Json :=
  match e with
  | .insert _ _ => some record
  | .update id changes =>
    some (if hasId idField id record then record.merge changes else record)
  | .delete id => if hasId idField id record then none else some record

/-! ## What an edit finds -/

/-- An edit in place names an id. -/
theorem InPlace.exists_id (h : e.InPlace idField) : ∃ id, e.id? idField = some id ∧ id.IsId := by
  cases e with
  | insert record place => exact h.elim
  | update id changes => exact ⟨id, rfl, h.1⟩
  | delete id => exact ⟨id, rfl, h⟩

/-- That two edits name different ids is the same from either side. -/
theorem Apart.symm (he : e.InPlace idField) (he' : e'.InPlace idField)
    (h : e.Apart idField e') : e'.Apart idField e := by
  intro j i hj hi
  obtain ⟨i', hi', hidi⟩ := he.exists_id
  obtain ⟨j', hj', hidj⟩ := he'.exists_id
  obtain rfl := Option.some.inj (hi.symm.trans hi')
  obtain rfl := Option.some.inj (hj.symm.trans hj')
  refine Bool.eq_false_iff.mpr fun hsame => ?_
  have hfalse := h i j hi hj
  rw [(sameId_iff hidi hidj).mpr ((sameId_iff hidj hidi).mp hsame).symm] at hfalse
  cases hfalse

/-- No record is found by two edits that name different ids. -/
theorem Apart.not_names (he : e.InPlace idField) (he' : e'.InPlace idField)
    (hapart : e.Apart idField e') (hnames : e.names idField record = true) :
    e'.names idField record = false := by
  obtain ⟨i, hi, hidi⟩ := he.exists_id
  obtain ⟨j, hj, hidj⟩ := he'.exists_id
  simp only [names, hi, hj, hasId] at hnames ⊢
  cases hown : record.field? idField with
  | none => rfl
  | some own =>
      rw [hown] at hnames
      refine Bool.eq_false_iff.mpr fun hsame => ?_
      have hwritten : i.written = j.written :=
        (written_of_sameId hidi hnames).symm.trans (written_of_sameId hidj hsame)
      have hfalse := hapart i j hi hj
      rw [(sameId_iff hidi hidj).mpr hwritten] at hfalse
      cases hfalse

/-- A record that is not named stays as it is. -/
theorem onRecord_of_not_names (hnot : e.names idField record = false) :
    e.onRecord idField record = some record := by
  cases e with
  | insert added place => rfl
  | update id changes =>
      have hother : hasId idField id record = false := hnot
      simp [onRecord, hother]
  | delete id =>
      have hother : hasId idField id record = false := hnot
      simp [onRecord, hother]

/-- A record is found again if it is left. -/
theorem names_of_onRecord (h : e.InPlace idField) (hnames : e.names idField record = true)
    (hleft : e.onRecord idField record = some left) : e.names idField left = true := by
  cases e with
  | insert added place => exact h.elim
  | update id changes =>
      obtain ⟨-, hdistinct, hkeeps⟩ := h
      have hhas : hasId idField id record = true := hnames
      simp only [onRecord, hhas, if_true] at hleft
      obtain rfl := Option.some.inj hleft
      change hasId idField id (record.merge changes) = true
      unfold hasId at hhas ⊢
      rw [field?_merge idField hdistinct]
      by_cases hobject : record.isObject = true
      · rw [if_pos hobject]
        cases hown : changes.field? idField with
        | none => exact hhas
        | some own => exact hkeeps own hown
      · rw [if_neg hobject]
        exact hhas
  | delete id =>
      have hhas : hasId idField id record = true := hnames
      simp [onRecord, hhas] at hleft

section Commuting

variable (he : e.InPlace idField) (he' : e'.InPlace idField) (hapart : e.Apart idField e')

include he he' hapart

/-- What the one edit leaves of its record, the other does not change. -/
theorem onRecord_left (hnames : e.names idField record = true) :
    (e.onRecord idField record).bind (e'.onRecord idField) = e.onRecord idField record := by
  cases hleft : e.onRecord idField record with
  | none => rfl
  | some left =>
      have hagain := names_of_onRecord he hnames hleft
      exact onRecord_of_not_names (hapart.not_names he he' hagain)

/-- Nor does it change the record before. -/
theorem onRecord_right (hnames : e.names idField record = true) :
    (e'.onRecord idField record).bind (e.onRecord idField) = e.onRecord idField record := by
  rw [onRecord_of_not_names (hapart.not_names he he' hnames)]
  rfl

/-- **Edits of different records commute on every record.** -/
theorem onRecord_comm (record : Json) :
    (e.onRecord idField record).bind (e'.onRecord idField) =
      (e'.onRecord idField record).bind (e.onRecord idField) := by
  cases hnames : e.names idField record with
  | true => rw [onRecord_left he he' hapart hnames, onRecord_right he he' hapart hnames]
  | false =>
      cases hnames' : e'.names idField record with
      | true =>
          have hapart' := hapart.symm he he'
          rw [onRecord_left he' he hapart' hnames', onRecord_right he' he hapart' hnames']
      | false =>
          have hkept := onRecord_of_not_names hnames
          have hkept' := onRecord_of_not_names hnames'
          simp only [hkept, hkept', Option.bind_some]

end Commuting

/-! ## On a value -/

/-- On a list, an edit in place does to every record what it does to that one. -/
theorem apply_list (h : e.InPlace idField) (items : List Json) :
    e.apply idField (.arr items) = .arr (items.filterMap (e.onRecord idField)) := by
  cases e with
  | insert record place => exact h.elim
  | update id changes =>
      refine congrArg Json.arr ?_
      rw [← List.filterMap_eq_map]
      rfl
  | delete id =>
      refine congrArg Json.arr ?_
      rw [← List.filterMap_eq_filter]
      refine List.filterMap_congr fun item _ => ?_
      cases hhas : hasId idField id item <;> simp [onRecord, hhas, Option.guard]

/-- A single record is not deleted. -/
theorem apply_record (h : e.InPlace idField) (hobject : record.isObject = true) :
    e.apply idField record = (e.onRecord idField record).getD record := by
  cases record with
  | obj fields =>
      cases e with
      | insert added place => exact h.elim
      | update id changes => rfl
      | delete id =>
          change Json.obj fields =
            (if hasId idField id (.obj fields) then none else some (.obj fields)).getD (.obj fields)
          split <;> rfl
  | null | bool | num | str | arr => cases hobject

/-- An object is left an object. -/
theorem isObject_apply (h : e.InPlace idField) (hobject : record.isObject = true) :
    (e.apply idField record).isObject = true := by
  rw [apply_record h hobject]
  cases e with
  | insert added place => exact h.elim
  | update id changes =>
      change (if hasId idField id record then record.merge changes else record).isObject = true
      split
      · exact (Json.isObject_merge record changes).trans hobject
      · exact hobject
  | delete id =>
      change ((if hasId idField id record then none else some record).getD record).isObject = true
      split <;> exact hobject

/-- On what is neither list nor object an edit in place has no effect. -/
theorem apply_other (h : e.InPlace idField) (hitems : value.items? = none)
    (hobject : value.isObject = false) : e.apply idField value = value := by
  cases e with
  | insert record place => exact h.elim
  | update id changes | delete id =>
      cases value with
      | arr items => cases hitems
      | obj fields => cases hobject
      | null | bool | num | str => rfl

/-- On an object that it does not name an edit in place has no effect. -/
theorem apply_of_not_names (h : e.InPlace idField) (hobject : record.isObject = true)
    (hnot : e.names idField record = false) : e.apply idField record = record := by
  rw [apply_record h hobject, onRecord_of_not_names hnot]
  rfl

/-- A single record that is changed is found again. -/
theorem names_apply (h : e.InPlace idField) (hobject : record.isObject = true)
    (hnames : e.names idField record = true) :
    e.names idField (e.apply idField record) = true := by
  rw [apply_record h hobject]
  cases hleft : e.onRecord idField record with
  | none => exact hnames
  | some left => exact names_of_onRecord h hnames hleft

/-- **Edits of different records commute.** -/
theorem apply_comm (he : e.InPlace idField) (he' : e'.InPlace idField)
    (hapart : e.Apart idField e') (value : Json) :
    e'.apply idField (e.apply idField value) = e.apply idField (e'.apply idField value) := by
  have hother : ∀ {value : Json}, value.items? = none → value.isObject = false →
      e'.apply idField (e.apply idField value) = e.apply idField (e'.apply idField value) := by
    intro value hitems hobject
    rw [apply_other he hitems hobject, apply_other he' hitems hobject, apply_other he hitems hobject]
  cases value with
  | arr items =>
      rw [apply_list he, apply_list he', apply_list he', apply_list he]
      rw [List.filterMap_filterMap, List.filterMap_filterMap]
      exact congrArg Json.arr (List.filterMap_congr fun item _ => onRecord_comm he he' hapart item)
  | obj fields =>
      cases hnames : e.names idField (.obj fields) with
      | true =>
          have hagain := names_apply he rfl hnames
          rw [apply_of_not_names he' rfl (hapart.not_names he he' hnames)]
          exact apply_of_not_names he' (isObject_apply he rfl) (hapart.not_names he he' hagain)
      | false =>
          rw [apply_of_not_names he rfl hnames]
          cases hnames' : e'.names idField (.obj fields) with
          | true =>
              have hagain := names_apply he' rfl hnames'
              have hnot := (hapart.symm he he').not_names he' he hagain
              exact (apply_of_not_names he (isObject_apply he' rfl) hnot).symm
          | false =>
              rw [apply_of_not_names he' rfl hnames', apply_of_not_names he rfl hnames]
  | null | bool | num | str => exact hother rfl rfl

/-! ## Once the server has answered -/

/-- Then the edit is what it was, or a change to the record that the server returned. -/
theorem resolved_cases (h : e.InPlace idField) (response : Json) :
    e.resolved idField response = e ∨
      ∃ id changes, e = .update id changes ∧ hasId idField id response = true ∧
        e.resolved idField response = .update id response := by
  cases e with
  | insert record place => exact h.elim
  | update id changes =>
      cases hown : response.field? idField with
      | none => exact Or.inl (by simp [resolved, hown])
      | some own =>
          cases hhas : hasId idField id response with
          | true => exact Or.inr ⟨id, changes, rfl, hhas, by simp [resolved, hown, hhas]⟩
          | false => exact Or.inl (by simp [resolved, hown, hhas])
  | delete id => cases hown : response.field? idField <;> exact Or.inl (by simp [resolved, hown])

/-- The server's answer leaves an edit its id. -/
theorem id?_resolved (h : e.InPlace idField) (response : Json) :
    (e.resolved idField response).id? idField = e.id? idField := by
  obtain hsame | ⟨id, changes, rfl, -, hnew⟩ := resolved_cases h response
  · rw [hsame]
  · rw [hnew]
    rfl

/-- The server's answer leaves an edit in place. -/
theorem InPlace.resolved (h : e.InPlace idField) (hdistinct : response.FieldsDistinct) :
    (e.resolved idField response).InPlace idField := by
  obtain hsame | ⟨id, changes, rfl, hhas, hnew⟩ := resolved_cases h response
  · rw [hsame]
    exact h
  · rw [hnew]
    refine ⟨h.1, hdistinct, fun own hown => ?_⟩
    simpa [hasId, hown] using hhas

/-- An edit in place is none that adds a record. -/
theorem upserted_inPlace (h : e.InPlace idField) (base : Json) :
    e.upserted idField base = e := by
  cases e with
  | insert record place => exact h.elim
  | update id changes | delete id => rfl

/-- Confirming an edit in place is applying it as the server has answered. -/
theorem settled_inPlace (h : e.InPlace idField) (hdistinct : response.FieldsDistinct)
    (value : Json) :
    e.settled idField response value = (e.resolved idField response).apply idField value := by
  unfold settled
  rw [upserted_inPlace (h.resolved hdistinct)]

/-- Edits of different ids are confirmed in either order. -/
theorem settled_comm {response' : Json} (he : e.InPlace idField) (he' : e'.InPlace idField)
    (hapart : e.Apart idField e') (hdistinct : response.FieldsDistinct)
    (hdistinct' : response'.FieldsDistinct) (value : Json) :
    e'.settled idField response' (e.settled idField response value) =
      e.settled idField response (e'.settled idField response' value) := by
  simp only [settled_inPlace he hdistinct, settled_inPlace he' hdistinct']
  refine apply_comm (he.resolved hdistinct) (he'.resolved hdistinct') ?_ value
  unfold Apart
  rw [id?_resolved he, id?_resolved he']
  exact hapart

end Edit

/-! ## Whole writes -/

/-- A write with all its edits, and the server's answer if it is confirmed in the end. -/
structure Plan where
  write : Nat
  edits : List Edit
  answer : Option Json
deriving DecidableEq

namespace Plan

variable {idField : String} {p q : Plan}

/-- Its last turn. -/
def close (p : Plan) : Turn :=
  match p.answer with
  | some response => .commit p.write response
  | none => .rollback p.write

/-- All its turns, in their order. -/
def turns (p : Plan) : List Turn := p.edits.map (.apply p.write) ++ [p.close]

/-- The value with the write made on it, if it is confirmed. -/
def settled (idField : String) (p : Plan) (value : Json) : Json :=
  match p.answer with
  | some response => p.edits.foldl (fun v e => e.settled idField response v) value
  | none => value

/-- It edits records that are there.  That an object has no name twice is what every object made
from a list of fields has. -/
structure InPlace (idField : String) (p : Plan) : Prop where
  edits : ∀ e ∈ p.edits, e.InPlace idField
  answer : ∀ response, p.answer = some response → response.FieldsDistinct

instance (idField : String) (p : Plan) : Decidable (p.InPlace idField) :=
  decidable_of_iff
    ((∀ e ∈ p.edits, e.InPlace idField) ∧ p.answer.all fun r => decide r.FieldsDistinct)
    (by
      simp only [Option.all_eq_true, decide_eq_true_eq]
      exact ⟨fun h => ⟨h.1, h.2⟩, fun h => ⟨h.edits, h.answer⟩⟩)

/-- The writes name different ids. -/
def Apart (idField : String) (p q : Plan) : Prop :=
  ∀ e ∈ p.edits, ∀ e' ∈ q.edits, e.Apart idField e'

instance (idField : String) (p q : Plan) : Decidable (p.Apart idField q) :=
  inferInstanceAs (Decidable (∀ e ∈ p.edits, ∀ e' ∈ q.edits, e.Apart idField e'))

/-- Which of the writes is made first is of no account. -/
def Commutes (idField : String) (p q : Plan) : Prop :=
  ∀ v, q.settled idField (p.settled idField v) = p.settled idField (q.settled idField v)

instance : Std.Symm (Commutes idField) := ⟨fun _ _ h v => (h v).symm⟩

/-- What commutes with each of some edits commutes with all of them. -/
theorem foldl_comm {edits : List Edit} {response : Json} {f : Json → Json}
    (h : ∀ e ∈ edits, ∀ v, f (e.settled idField response v) = e.settled idField response (f v))
    (value : Json) : f (edits.foldl (fun v e => e.settled idField response v) value) =
      edits.foldl (fun v e => e.settled idField response v) (f value) := by
  induction edits generalizing value with
  | nil => rfl
  | cons e rest ih =>
      rw [List.foldl_cons, List.foldl_cons, ih (fun e' he' => h e' (List.mem_cons_of_mem e he'))]
      rw [h e List.mem_cons_self]

/-- **Writes of different records commute.** -/
theorem commutes_of_apart (hp : p.InPlace idField) (hq : q.InPlace idField)
    (hapart : p.Apart idField q) : p.Commutes idField q := by
  intro value
  cases hanswer : p.answer with
  | none => simp only [settled, hanswer]
  | some response =>
      cases hanswer' : q.answer with
      | none => simp only [settled, hanswer']
      | some response' =>
          simp only [settled, hanswer, hanswer']
          let rest : Json → Json := q.edits.foldl fun v e => e.settled idField response' v
          refine foldl_comm (f := rest) (fun e he v => ?_) value
          refine (foldl_comm (f := e.settled idField response) (fun e' he' v => ?_) v).symm
          exact (Edit.settled_comm (hp.edits e he) (hq.edits e' he') (hapart e he e' he')
            (hp.answer response hanswer) (hq.answer response' hanswer') v).symm

end Plan

/-- A course in which the turns of some writes fall in between one another in any way, and there are
no others. -/
structure Interleaves (plans : List Plan) (course : List Turn) : Prop where
  own : ∀ p ∈ plans, course.filter (fun t => t.write? = some p.write) = p.turns
  only : ∀ t ∈ course, ∃ p ∈ plans, t.write? = some p.write

instance (plans : List Plan) (course : List Turn) : Decidable (Interleaves plans course) :=
  decidable_of_iff
    ((∀ p ∈ plans, course.filter (fun t => t.write? = some p.write) = p.turns) ∧
      ∀ t ∈ course, ∃ p ∈ plans, t.write? = some p.write)
    ⟨fun h => ⟨h.1, h.2⟩, fun h => ⟨h.own, h.only⟩⟩

/-- The edit that a turn lays on top. -/
def Turn.edit? : Turn → Option Edit
  | .apply _ edit => some edit
  | .commit _ _ | .rollback _ | .rebase _ => none

/-- The turns that have brought these edits. -/
def Turn.brought (pending : List PendingEdit) : List Turn :=
  pending.map fun p => .apply p.write p.edit

/-- What these writes have pending and what is still to come of them makes up all their turns. -/
structure Due (plans : List Plan) (l : Ledger) (course : List Turn) : Prop where
  distinct : (plans.map Plan.write).Nodup
  turns : ∀ p ∈ plans, Turn.brought (l.own p.write) ++
    course.filter (fun t => t.write? = some p.write) = p.turns
  pending : ∀ e ∈ l.pending, ∃ p ∈ plans, e.write = p.write
  coming : ∀ t ∈ course, ∃ p ∈ plans, t.write? = some p.write

namespace Due

variable {idField : String} {plans : List Plan} {l : Ledger} {course rest : List Turn} {p : Plan}

/-- Before the first turn all turns of the writes are still to come. -/
theorem start (hdistinct : (plans.map Plan.write).Nodup) (h : Interleaves plans course)
    (base : Json) : Due plans ⟨base, []⟩ course where
  distinct := hdistinct
  turns := h.own
  pending := nofun
  coming := h.only

/-- An edit that is laid on top goes over from what is to come to what is pending. -/
theorem apply {write : Nat} {edit : Edit} (h : Due plans l (.apply write edit :: rest)) :
    Due plans (l.turn idField (.apply write edit)) rest where
  distinct := h.distinct
  turns := by
    intro p hp
    rw [← h.turns p hp]
    by_cases hself : write = p.write
    · simp [Ledger.turn, Ledger.own, Turn.brought, Turn.write?, hself]
    · simp [Ledger.turn, Ledger.own, Turn.brought, Turn.write?, hself]
  pending := by
    intro e he
    rcases List.mem_append.mp he with hold | hnew
    · exact h.pending e hold
    · obtain rfl := List.mem_singleton.mp hnew
      obtain ⟨p, hp, hwrite⟩ := h.coming _ List.mem_cons_self
      exact ⟨p, hp, Option.some.inj hwrite⟩
  coming := fun t ht => h.coming t (List.mem_cons_of_mem _ ht)

/-- Only the last turn of a write is none that lays an edit on top, and when it comes, all edits of
the write are pending and nothing of it comes after. -/
theorem close {t : Turn} (h : Due plans l (t :: rest)) (hp : p ∈ plans)
    (ht : t.write? = some p.write) (hlast : ∀ write edit, t ≠ .apply write edit) :
    t = p.close ∧ (l.own p.write).map PendingEdit.edit = p.edits ∧
      rest.filter (fun t => t.write? = some p.write) = [] := by
  have hturns := h.turns p hp
  rw [List.filter_cons, if_pos (by simpa using ht)] at hturns
  have hnot : t ∉ p.edits.map (.apply p.write) := by
    intro hmem
    obtain ⟨edit, -, heq⟩ := List.mem_map.mp hmem
    exact hlast _ _ heq.symm
  obtain ⟨hbrought, hclose, hrest⟩ :=
    (List.append_cons_inj_of_notMem hnot List.not_mem_nil).mp hturns.symm
  refine ⟨hclose.symm, ?_, hrest.symm⟩
  have hedits := congrArg (List.filterMap Turn.edit?) hbrought
  simpa [Turn.brought, Turn.edit?, List.filterMap_map, Function.comp_def] using hedits.symm

/-- No two of the writes have one number. -/
theorem write_ne {q : Plan} (h : Due plans l course) (hp : p ∈ plans) (hq : q ∈ plans.erase p) :
    q.write ≠ p.write := by
  intro heq
  obtain ⟨hne, hq'⟩ := (List.Nodup.of_map Plan.write h.distinct).mem_erase_iff.mp hq
  exact hne (List.inj_on_of_nodup_map h.distinct hq' hp heq)

/-- Once a write is settled, nothing of it is pending or to come, and nothing else has changed. -/
theorem settle {t : Turn} (h : Due plans l (t :: rest)) (hp : p ∈ plans)
    (ht : t.write? = some p.write) (hrest : rest.filter (fun t => t.write? = some p.write) = [])
    (base : Json) : Due (plans.erase p) { l.without p.write with base := base } rest where
  distinct := h.distinct.sublist (List.erase_sublist.map _)
  turns := by
    intro q hq
    have hother : q.write ≠ p.write := h.write_ne hp hq
    have hnot : ¬ decide (t.write? = some q.write) = true := by
      simpa [ht] using hother.symm
    have hturns := h.turns q (List.mem_of_mem_erase hq)
    rw [List.filter_cons, if_neg hnot] at hturns
    have hown : (l.without p.write).own q.write = l.own q.write := Ledger.own_without hother
    change Turn.brought ((l.without p.write).own q.write) ++ _ = q.turns
    rw [hown]
    exact hturns
  pending := by
    intro e he
    obtain ⟨hold, hother⟩ := List.mem_filter.mp he
    obtain ⟨q, hq, hwrite⟩ := h.pending e hold
    refine ⟨q, (List.mem_erase_of_ne fun heq => ?_).mpr hq, hwrite⟩
    simp [hwrite, heq] at hother
  coming := by
    intro u hu
    obtain ⟨q, hq, hwrite⟩ := h.coming u (List.mem_cons_of_mem t hu)
    refine ⟨q, (List.mem_erase_of_ne fun heq => ?_).mpr hq, hwrite⟩
    have hnone := List.filter_eq_nil_iff.mp hrest u hu
    simp [hwrite, heq] at hnone

/-- With nothing to come, no write is left, and nothing is pending. -/
theorem nothing_left (h : Due plans l []) : plans = [] ∧ l.pending = [] := by
  have hnone : plans = [] := by
    refine List.eq_nil_iff_forall_not_mem.mpr fun p hp => ?_
    have hmem : p.close ∈ Turn.brought (l.own p.write) := by
      have hturns := h.turns p hp
      rw [List.filter_nil, List.append_nil] at hturns
      rw [hturns]
      exact List.mem_append_right _ List.mem_cons_self
    obtain ⟨e, -, heq⟩ := List.mem_map.mp hmem
    unfold Plan.close at heq
    cases hanswer : p.answer <;> rw [hanswer] at heq <;> cases heq
  refine ⟨hnone, List.eq_nil_iff_forall_not_mem.mpr fun e he => ?_⟩
  obtain ⟨p, hp, -⟩ := h.pending e he
  rw [hnone] at hp
  cases hp

/-- The last turn of a write, when all its edits are pending, makes it on the base. -/
theorem base_close (hedits : (l.own p.write).map PendingEdit.edit = p.edits) :
    l.turn idField p.close =
      { l.without p.write with base := p.settled idField l.base } := by
  unfold Plan.close Plan.settled
  cases p.answer with
  | none => rfl
  | some response =>
      have hbase : l.settledBase idField p.write response =
          p.edits.foldl (fun v e => e.settled idField response v) l.base := by
        rw [← hedits, List.foldl_map]
        rfl
      simp only [Ledger.turn, hbase]

/-- **Along the whole course**, every write is made once on the base. -/
theorem run (h : Due plans l course)
    (hcomm : ∀ p ∈ plans, ∀ q ∈ plans, p.Commutes idField q) :
    l.run idField course = ⟨plans.foldl (fun v p => p.settled idField v) l.base, []⟩ := by
  induction course generalizing plans l with
  | nil =>
      obtain ⟨rfl, hpending⟩ := h.nothing_left
      change l = ⟨l.base, []⟩
      rw [← hpending]
  | cons t rest ih =>
      obtain ⟨p, hp, ht⟩ := h.coming t List.mem_cons_self
      by_cases hlast : ∀ write edit, t ≠ .apply write edit
      · obtain ⟨rfl, hedits, hrest⟩ := h.close hp ht hlast
        have hleft := h.settle hp ht hrest (p.settled idField l.base)
        have hrun := ih hleft fun q hq q' hq' =>
          hcomm q (List.mem_of_mem_erase hq) q' (List.mem_of_mem_erase hq')
        have hperm := (List.perm_cons_erase hp).foldl_eq' (f := fun v p => p.settled idField v)
          (fun q hq q' hq' v => hcomm q hq q' hq' v) l.base
        change (l.turn idField p.close).run idField rest = _
        rw [base_close hedits, hrun, hperm]
        rfl
      · simp only [not_forall, not_not] at hlast
        obtain ⟨write, edit, rfl⟩ := hlast
        exact ih h.apply hcomm

end Due

namespace Showing

/-- **Independent writes settle in any order.**  Some writes change and delete records of one value,
and no two of them name one id.  Some of them are confirmed, the others taken back.  However their
turns fall in between one another, the same value is shown in the end: the one on which the
confirmed writes have been made in turn.  Nothing is pending any more. -/
theorem settled_in_any_order {o : Overlays} {k : Key} (hnone : o.get? k = none) (shown : Version)
    {plans : List Plan} (hdistinct : (plans.map Plan.write).Nodup)
    (hplans : ∀ p ∈ plans, p.InPlace o.idField) (hapart : plans.Pairwise (Plan.Apart o.idField))
    {course course' : List Turn} (h : Interleaves plans course) (h' : Interleaves plans course') :
    let left := run k ⟨o, shown⟩ course
    let left' := run k ⟨o, shown⟩ course'
    left.shown.value = left'.shown.value ∧
      left.shown.value = plans.foldl (fun v p => p.settled o.idField v) shown.value ∧
      (left.overlay k).pending = [] := by
  have hcomm : ∀ p ∈ plans, ∀ q ∈ plans, p.Commutes o.idField q := by
    have hpairs : plans.Pairwise (Plan.Commutes o.idField) :=
      hapart.imp_of_mem fun hp hq => Plan.commutes_of_apart (hplans _ hp) (hplans _ hq)
    intro p hp q hq
    exact hpairs.forall_of_forall (fun _ _ _ => rfl) hp hq
  have hkeeps : ∀ {course}, Interleaves plans course →
      (run k ⟨o, shown⟩ course).Keeps k o.idField
        ⟨plans.foldl (fun v p => p.settled o.idField v) shown.value, []⟩ := by
    intro course h
    have hrun := keeps_run (keeps_start hnone shown) course
    rwa [(Due.start hdistinct h shown.value).run hcomm] at hrun
  intro left left'
  have hleft := hkeeps h
  exact ⟨hleft.shown.trans (hkeeps h').shown.symm, hleft.shown, hleft.pending⟩

/-- Three writes on a list: the server answers the first with the record, its id now a text, the
second changes a record and then deletes it, and the third is taken back. -/
def threeWrites : List Plan := [
  ⟨1, [.update (.num (.int 1)) (.ofFields [("name", .str "a")])],
    some (.ofFields [("id", .str "1"), ("name", .str "A")])⟩,
  ⟨2, [.update (.str "2") (.ofFields [("name", .str "b")]), .delete (.num (.int 2))], some .null⟩,
  ⟨3, [.update (.str "3") (.ofFields [("name", .str "c")])], none⟩]

/-- One write is settled before the next one begins, so the overlay is gone in between. -/
def oneByOne : List Turn := threeWrites.flatMap Plan.turns

/-- All three are pending at once, and the last to begin is not the last to be settled. -/
def crosswise : List Turn := [
  .apply 3 (.update (.str "3") (.ofFields [("name", .str "c")])),
  .apply 2 (.update (.str "2") (.ofFields [("name", .str "b")])),
  .apply 1 (.update (.num (.int 1)) (.ofFields [("name", .str "a")])),
  .apply 2 (.delete (.num (.int 2))),
  .commit 2 .null,
  .rollback 3,
  .commit 1 (.ofFields [("id", .str "1"), ("name", .str "A")])]

/-- What is shown before. -/
def threeRecords : Version :=
  ⟨0, .arr [
    .ofFields [("id", .num (.int 1)), ("name", .str "x")],
    .ofFields [("id", .num (.int 2)), ("name", .str "y")],
    .ofFields [("id", .num (.int 3)), ("name", .str "z")]]⟩

/-- The three writes crosswise, and one by one. -/
theorem settled_in_any_order_crosswise :
    ((threeWrites.map Plan.write).Nodup ∧ (∀ p ∈ threeWrites, p.InPlace "id") ∧
      threeWrites.Pairwise (Plan.Apart "id") ∧ Interleaves threeWrites crosswise ∧
      Interleaves threeWrites oneByOne) ∧
    let left := run ⟨"k"⟩ ⟨.empty "id", threeRecords⟩ crosswise
    let left' := run ⟨"k"⟩ ⟨.empty "id", threeRecords⟩ oneByOne
    left.shown.value = .arr [
        .ofFields [("id", .str "1"), ("name", .str "A")],
        .ofFields [("id", .num (.int 3)), ("name", .str "z")]] ∧
      left.shown.value = left'.shown.value ∧
      left.shown.value = threeWrites.foldl (fun v p => p.settled "id" v) threeRecords.value ∧
      (left.overlay ⟨"k"⟩).pending = [] := by
  have hdistinct : (threeWrites.map Plan.write).Nodup := by decide
  have hplans : ∀ p ∈ threeWrites, p.InPlace "id" := by decide +kernel
  have hapart : threeWrites.Pairwise (Plan.Apart "id") := by decide +kernel
  have hcrosswise : Interleaves threeWrites crosswise := by decide +kernel
  have honeByOne : Interleaves threeWrites oneByOne := by decide +kernel
  have hnone : (Overlays.empty "id").get? ⟨"k"⟩ = none := by simp [Overlays.empty, Overlays.get?]
  refine ⟨⟨hdistinct, hplans, hapart, hcrosswise, honeByOne⟩, by decide +kernel, ?_⟩
  exact settled_in_any_order hnone threeRecords hdistinct hplans hapart hcrosswise honeByOne

end Showing

end QueryCache
