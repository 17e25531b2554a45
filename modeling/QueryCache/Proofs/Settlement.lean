import Mathlib.Data.List.Basic
import QueryCache.Proofs.Identity
import QueryCache.Proofs.Replay
/-!
# A confirmed write is made part of the base

When the server has confirmed a write, its edits are made on the base in turn: an added record is the
one that the server returned, and one that has arrived on another way meanwhile is updated in place.
Meanwhile other edits of the same write have changed the list, so each finds another list than the
one that the write began with.

`Edit.settledAs` is the edit that is really made then.  It is `Regular` if the edit was, it adds
nothing that is there (`not_names_of_settledAs`), and it is of the same record as the edit or of the
returned one (`names_settledAs`).  What such an edit does to a list is said once for each of these
properties, and goes on to all edits of the write by `settleAll_induction`.

`confirmed_once` — no two records of the base have one id then, nothing is lost that neither the
write nor the answer names, and no guess is left where the server has returned the record.
-/

namespace QueryCache

namespace Edit

variable {idField : String} {e : Edit} {items kept : List Json} {item record response id : Json}
  {place : Place}

/-- The id of the record that an edit is of. -/
def id? (idField : String) : Edit → Option Json
  | .insert record _ => record.field? idField
  | .update id _ => some id
  | .delete id => some id

/-- The edit is of this record. -/
def names (idField : String) (e : Edit) (record : Json) : Bool :=
  match e.id? idField with
  | some id => hasId idField id record
  | none => false

/-- Its ids are integers and texts, and an update leaves the record its id. -/
def Regular (idField : String) : Edit → Prop
  | .insert record _ => Identified idField record ∧ record.FieldsDistinct
  | .update id changes => id.IsId ∧ Identified idField changes ∧ changes.FieldsDistinct ∧
      ∀ own, changes.field? idField = some own → sameId own id = true
  | .delete id => id.IsId

instance (idField : String) (e : Edit) : Decidable (e.Regular idField) :=
  match e with
  | .insert record _ => inferInstanceAs (Decidable (Identified idField record ∧ _))
  | .update id changes => decidable_of_iff
      (id.IsId ∧ Identified idField changes ∧ changes.FieldsDistinct ∧
        (changes.field? idField).all (fun own => sameId own id))
      (by simp only [Option.all_eq_true]; rfl)
  | .delete id => inferInstanceAs (Decidable id.IsId)

/-- The list with the edit made. -/
def onList (idField : String) (items : List Json) (e : Edit) : List Json :=
  ((e.apply idField (.arr items)).items?).getD []

/-- On a list an edit is made as on a list. -/
theorem apply_arr (idField : String) (items : List Json) (e : Edit) :
    e.apply idField (.arr items) = .arr (e.onList idField items) := by
  match e with
  | .insert _ .front | .insert _ .back | .update _ _ | .delete _ => rfl

/-! ## What one edit does to a list -/

/-- Wherever it is put, a record that is added joins the others. -/
theorem perm_insert (idField : String) (items : List Json) (record : Json) (place : Place) :
    ((insert record place).onList idField items).Perm (record :: items) := by
  cases place with
  | front => exact .refl _
  | back => exact List.perm_append_singleton record items

/-- Whoever has an id that an update is of keeps it. -/
theorem writtenId?_update {changes : Json} (hregular : (update id changes).Regular idField)
    (hitem : Identified idField item) (hhas : hasId idField id item = true) :
    writtenId? idField (item.merge changes) = writtenId? idField item := by
  obtain ⟨hid, hchanges, hdistinct, hkeeps⟩ := hregular
  refine writtenId?_merge hdistinct fun own hown => ?_
  have hsame : own.written = id.written :=
    (sameId_iff (hchanges own hown) hid).mp (hkeeps own hown)
  rw [hsame]
  exact (hasId_iff hitem hid).mp hhas

/-- An update changes no id. -/
theorem writtenIds_update {changes : Json} (hregular : (update id changes).Regular idField)
    (hitems : ∀ item ∈ items, Identified idField item) :
    writtenIds idField ((update id changes).onList idField items) = writtenIds idField items := by
  change List.filterMap _ (items.map _) = List.filterMap _ items
  rw [List.filterMap_map]
  refine List.filterMap_congr fun item hitem => ?_
  rw [Function.comp_apply]
  split
  · rename_i hhas
    exact writtenId?_update hregular (hitems item hitem) hhas
  · rfl

/-- A regular edit leaves the ids of a list integers and texts. -/
theorem identified_onList (hregular : e.Regular idField)
    (hitems : ∀ item ∈ items, Identified idField item) :
    ∀ item ∈ e.onList idField items, Identified idField item := by
  intro item hmem
  cases e with
  | insert record place =>
      rcases List.mem_cons.mp ((perm_insert idField items record place).mem_iff.mp hmem) with
        rfl | hold
      · exact hregular.1
      · exact hitems item hold
  | update id changes =>
      obtain ⟨before, hbefore, rfl⟩ := List.mem_map.mp hmem
      split
      · exact (hitems before hbefore).merge hregular.2.1 hregular.2.2.1
      · exact hitems before hbefore
  | delete id => exact hitems item (List.mem_filter.mp hmem).1

/-- **An edit leaves a list keyed**, if it adds no record that is there. -/
theorem keyed_onList (h : Keyed idField items) (hregular : e.Regular idField)
    (hnew : ∀ record place, e = .insert record place →
      ∀ item ∈ items, e.names idField item = false) :
    Keyed idField (e.onList idField items) := by
  have hitems := identified_onList hregular h.identified
  have hdistinct := (idsDistinct_iff h.identified).mp h.distinct
  refine ⟨hitems, (idsDistinct_iff hitems).mpr ?_⟩
  cases e with
  | insert record place =>
      have hperm := (perm_insert idField items record place).filterMap (writtenId? idField)
      refine hperm.nodup_iff.mpr ?_
      rw [List.filterMap_cons]
      cases hown : record.field? idField with
      | none =>
          have hnone : writtenId? idField record = none := by rw [writtenId?, hown]; rfl
          rw [hnone]
          exact hdistinct
      | some own =>
          have hsome : writtenId? idField record = some own.written := by rw [writtenId?, hown]; rfl
          rw [hsome]
          refine List.nodup_cons.mpr ⟨fun hthere => ?_, hdistinct⟩
          obtain ⟨item, hmem, hhas⟩ :=
            (exists_hasId_iff h.identified (hregular.1 own hown)).mpr hthere
          have hnot := hnew record place rfl item hmem
          simp only [names, id?, hown, hhas] at hnot
          cases hnot
  | update id changes =>
      rw [writtenIds_update hregular h.identified]
      exact hdistinct
  | delete id => exact hdistinct.sublist (List.filter_sublist.filterMap _)

/-- What an edit is not of stays as it is, and in its order. -/
theorem sublist_onList (hkept : kept.Sublist items)
    (hother : ∀ item ∈ kept, e.names idField item = false) :
    kept.Sublist (e.onList idField items) := by
  cases e with
  | insert record place =>
      cases place with
      | front => exact hkept.cons record
      | back => exact hkept.trans (List.sublist_append_left items [record])
  | update id changes =>
      have hsame : kept.map (fun item =>
          if hasId idField id item then item.merge changes else item) = kept := by
        refine (List.map_congr_left fun item hitem => ?_).trans (List.map_id kept)
        have hnot : hasId idField id item = false := hother item hitem
        rw [hnot]
        rfl
      rw [← hsame]
      exact hkept.map _
  | delete id =>
      have hsame : kept.filter (fun item => !hasId idField id item) = kept := by
        refine List.filter_eq_self.mpr fun item hitem => ?_
        have hnot : hasId idField id item = false := hother item hitem
        rw [hnot]
        rfl
      rw [← hsame]
      exact hkept.filter _

/-- An id that is in the list afterwards was there before, or is that of an added record. -/
theorem of_mem_writtenIds_onList (hregular : e.Regular idField)
    (hitems : ∀ item ∈ items, Identified idField item) {s : String}
    (hs : s ∈ writtenIds idField (e.onList idField items)) :
    s ∈ writtenIds idField items ∨
      ∃ record place, e = .insert record place ∧ writtenId? idField record = some s := by
  cases e with
  | insert record place =>
      have hperm := (perm_insert idField items record place).filterMap (writtenId? idField)
      obtain ⟨item, hmem, hwritten⟩ := List.mem_filterMap.mp (hperm.mem_iff.mp hs)
      rcases List.mem_cons.mp hmem with rfl | hold
      · exact Or.inr ⟨item, place, rfl, hwritten⟩
      · exact Or.inl (mem_writtenIds.mpr ⟨item, hold, hwritten⟩)
  | update id changes =>
      rw [writtenIds_update hregular hitems] at hs
      exact Or.inl hs
  | delete id =>
      obtain ⟨item, hmem, hwritten⟩ := mem_writtenIds.mp hs
      exact Or.inl (mem_writtenIds.mpr ⟨item, (List.mem_filter.mp hmem).1, hwritten⟩)

/-- An id that is in the list before is there afterwards, unless its record is deleted. -/
theorem mem_writtenIds_onList (hregular : e.Regular idField)
    (hitems : ∀ item ∈ items, Identified idField item) {s : String}
    (hs : s ∈ writtenIds idField items) (hstays : ∀ id, e = .delete id → id.written ≠ s) :
    s ∈ writtenIds idField (e.onList idField items) := by
  cases e with
  | insert record place =>
      have hperm := (perm_insert idField items record place).filterMap (writtenId? idField)
      obtain ⟨item, hmem, hwritten⟩ := mem_writtenIds.mp hs
      exact hperm.mem_iff.mpr
        (List.mem_filterMap.mpr ⟨item, List.mem_cons_of_mem record hmem, hwritten⟩)
  | update id changes =>
      rw [writtenIds_update hregular hitems]
      exact hs
  | delete id =>
      obtain ⟨item, hmem, hwritten⟩ := mem_writtenIds.mp hs
      refine mem_writtenIds.mpr ⟨item, List.mem_filter.mpr ⟨hmem, ?_⟩, hwritten⟩
      cases hhas : hasId idField id item with
      | false => rfl
      | true =>
          have hid := (hasId_iff (hitems item hmem) hregular).mp hhas
          exact absurd (Option.some.inj (hid.symm.trans hwritten)) (hstays id rfl)

/-- A record without an id that is in the list afterwards was there before, or has been added. -/
theorem of_mem_onList (hregular : e.Regular idField)
    (hitems : ∀ item ∈ items, Identified idField item) (hmem : item ∈ e.onList idField items)
    (hnone : item.field? idField = none) :
    item ∈ items ∨ ∃ place, e = .insert item place := by
  cases e with
  | insert record place =>
      rcases List.mem_cons.mp ((perm_insert idField items record place).mem_iff.mp hmem) with
        rfl | hold
      · exact Or.inr ⟨place, rfl⟩
      · exact Or.inl hold
  | update id changes =>
      obtain ⟨before, hbefore, heq⟩ := List.mem_map.mp hmem
      left
      by_cases hhas : hasId idField id before = true
      · -- A record that is updated has an id, and keeps it.
        rw [if_pos hhas] at heq
        have hkept := writtenId?_update hregular (hitems before hbefore) hhas
        rw [heq, (hasId_iff (hitems before hbefore) hregular.1).mp hhas] at hkept
        simp [writtenId?, hnone] at hkept
      · rw [if_neg hhas] at heq
        exact heq ▸ hbefore
  | delete id => exact Or.inl (List.mem_filter.mp hmem).1

/-! ## The edit that is made -/

/-- The edit that is made on a list when its write is confirmed. -/
def settledAs (idField : String) (response : Json) (items : List Json) (e : Edit) : Edit :=
  (e.resolved idField response).upserted idField (.arr items)

/-- What is settled on a list is the edit that is really made. -/
theorem settled_arr (idField : String) (response : Json) (items : List Json) (e : Edit) :
    e.settled idField response (.arr items) =
      .arr ((e.settledAs idField response items).onList idField items) :=
  apply_arr idField items _

/-- The record that is really added: the one that the server returned, if it returned one. -/
def brought (idField : String) (response guess : Json) : Json :=
  if (response.field? idField).isSome then response else guess

/-- What is brought is added if it is not there, and else updates the record that has its id. -/
theorem settledAs_insert (idField : String) (response : Json) (items : List Json) (guess : Json)
    (place : Place) :
    ((insert guess place).settledAs idField response items =
        insert (brought idField response guess) place ∧
      ∀ item ∈ items, (insert (brought idField response guess) place).names idField item = false) ∨
    ∃ id, (brought idField response guess).field? idField = some id ∧
      (∃ item ∈ items, hasId idField id item = true) ∧
      (insert guess place).settledAs idField response items =
        update id (brought idField response guess) := by
  have hresolved : (insert guess place).resolved idField response =
      insert (brought idField response guess) place := by
    cases hown : response.field? idField <;> simp [resolved, brought, hown]
  unfold settledAs
  rw [hresolved]
  cases hown : (brought idField response guess).field? idField with
  | none => exact Or.inl ⟨by simp [upserted, hown], fun _ _ => by simp [names, id?, hown]⟩
  | some id =>
      by_cases hthere : items.any (hasId idField id) = true
      · exact Or.inr ⟨id, rfl, List.any_eq_true.mp hthere, by simp [upserted, hown, hthere]⟩
      · refine Or.inl ⟨by simp [upserted, hown, hthere], fun item hmem => ?_⟩
        have hnot := List.any_eq_false.mp (Bool.eq_false_iff.mpr hthere) item hmem
        simpa [names, id?, hown] using hnot

/-- An update is made with the server's record, if that has the id. -/
theorem settledAs_update (idField : String) (response : Json) (items : List Json)
    (id changes : Json) :
    (update id changes).settledAs idField response items =
      update id (if hasId idField id response then response else changes) := by
  have hresolved : (update id changes).resolved idField response =
      update id (if hasId idField id response then response else changes) := by
    cases hown : response.field? idField with
    | none => simp [resolved, hasId, hown]
    | some own =>
        simp only [resolved, hown]
        split <;> rfl
  unfold settledAs
  rw [hresolved]
  rfl

/-- A deletion is made as it is. -/
theorem settledAs_delete (idField : String) (response : Json) (items : List Json) (id : Json) :
    (delete id).settledAs idField response items = delete id := by
  cases hown : response.field? idField <;> simp [settledAs, resolved, upserted, hown]

/-- A record updates the one that has its id without changing it. -/
theorem regular_update (hrecord : Identified idField record) (hdistinct : record.FieldsDistinct)
    (hown : record.field? idField = some id) : (update id record).Regular idField := by
  have hid := hrecord id hown
  refine ⟨hid, hrecord, hdistinct, fun own hsome => ?_⟩
  obtain rfl := Option.some.inj (hown.symm.trans hsome)
  exact (sameId_iff hid hid).mpr rfl

/-- The edit that is really made is regular. -/
theorem regular_settledAs (hregular : e.Regular idField) (hresponse : Identified idField response)
    (hdistinct : response.FieldsDistinct) (items : List Json) :
    (e.settledAs idField response items).Regular idField := by
  cases e with
  | insert guess place =>
      have hbrought : Identified idField (brought idField response guess) ∧
          (brought idField response guess).FieldsDistinct := by
        unfold brought
        split
        · exact ⟨hresponse, hdistinct⟩
        · exact hregular
      rcases settledAs_insert idField response items guess place with
        ⟨hinsert, -⟩ | ⟨id, hown, -, hupdate⟩
      · rw [hinsert]
        exact hbrought
      · rw [hupdate]
        exact regular_update hbrought.1 hbrought.2 hown
  | update id changes =>
      rw [settledAs_update]
      split
      · rename_i hhas
        refine ⟨hregular.1, hresponse, hdistinct, fun own hown => ?_⟩
        simpa [hasId, hown] using hhas
      · exact hregular
  | delete id =>
      rw [settledAs_delete]
      exact hregular

/-- The edit that is made adds no record that is there. -/
theorem not_names_of_settledAs
    (hinsert : e.settledAs idField response items = .insert record place) :
    ∀ item ∈ items, (e.settledAs idField response items).names idField item = false := by
  cases e with
  | insert guess at_ =>
      rcases settledAs_insert idField response items guess at_ with
        ⟨hsame, hnew⟩ | ⟨_, -, -, hupdate⟩
      · rw [hsame]
        exact hnew
      · cases hupdate.symm.trans hinsert
  | update id changes =>
      cases (settledAs_update idField response items id changes).symm.trans hinsert
  | delete id => cases (settledAs_delete idField response items id).symm.trans hinsert

/-- The edit that is made is of a record that the edit or the answer is of. -/
theorem names_settledAs (hnames : (e.settledAs idField response items).names idField item = true) :
    e.names idField item = true ∨
      ∃ own, response.field? idField = some own ∧ hasId idField own item = true := by
  cases e with
  | insert guess place =>
      have hbrought :
          (insert (brought idField response guess) place).names idField item = true := by
        rcases settledAs_insert idField response items guess place with
          ⟨hinsert, -⟩ | ⟨id, hown, -, hupdate⟩
        · exact hinsert ▸ hnames
        · rw [hupdate] at hnames
          simpa [names, id?, hown] using hnames
      unfold brought at hbrought
      cases hown : response.field? idField with
      | none =>
          rw [hown] at hbrought
          exact Or.inl hbrought
      | some own =>
          right
          refine ⟨own, rfl, ?_⟩
          simpa [names, id?, hown] using hbrought
  | update id changes =>
      rw [settledAs_update] at hnames
      exact Or.inl hnames
  | delete id =>
      rw [settledAs_delete] at hnames
      exact Or.inl hnames

/-- Where the server returned a record, no other is added. -/
theorem eq_of_settledAs_insert {own : Json} (hown : response.field? idField = some own)
    (hinsert : e.settledAs idField response items = .insert record place) : record = response := by
  cases e with
  | insert guess at_ =>
      rcases settledAs_insert idField response items guess at_ with
        ⟨hsame, -⟩ | ⟨_, -, -, hupdate⟩
      · have hbrought : brought idField response guess = response := by simp [brought, hown]
        rw [← hbrought]
        exact (Edit.insert.inj (hsame.symm.trans hinsert)).1.symm
      · cases hupdate.symm.trans hinsert
  | update id changes =>
      cases (settledAs_update idField response items id changes).symm.trans hinsert
  | delete id => cases (settledAs_delete idField response items id).symm.trans hinsert

/-- Only a deletion deletes. -/
theorem eq_of_settledAs_delete (hdelete : e.settledAs idField response items = .delete id) :
    e = .delete id := by
  cases e with
  | insert guess place =>
      rcases settledAs_insert idField response items guess place with
        ⟨hinsert, -⟩ | ⟨_, -, -, hupdate⟩
      · cases hinsert.symm.trans hdelete
      · cases hupdate.symm.trans hdelete
  | update id' changes =>
      cases (settledAs_update idField response items id' changes).symm.trans hdelete
  | delete id' => exact (settledAs_delete idField response items id').symm.trans hdelete

/-- The record that the server returned is there once it has been added. -/
theorem mem_writtenIds_of_insert {own : Json} (hown : response.field? idField = some own)
    (hresponse : Identified idField response) (hdistinct : response.FieldsDistinct)
    (hitems : ∀ item ∈ items, Identified idField item) (guess : Json) (place : Place) :
    own.written ∈ writtenIds idField
      (((insert guess place).settledAs idField response items).onList idField items) := by
  have hbrought : brought idField response guess = response := by simp [brought, hown]
  rcases settledAs_insert idField response items guess place with
    ⟨hinsert, -⟩ | ⟨id, hsome, hthere, hupdate⟩
  · have hperm := (perm_insert idField items response place).filterMap (writtenId? idField)
    rw [hinsert, hbrought]
    refine hperm.mem_iff.mpr (List.mem_filterMap.mpr ⟨response, List.mem_cons_self, ?_⟩)
    rw [writtenId?, hown]
    rfl
  · rw [hbrought] at hsome hupdate
    obtain rfl := Option.some.inj (hown.symm.trans hsome)
    rw [hupdate, writtenIds_update (regular_update hresponse hdistinct hown) hitems]
    exact (exists_hasId_iff hitems (hresponse own hown)).mp hthere

/-! ## All edits of a write -/

/-- The list with these edits made, each as it is settled on what the ones before have left. -/
def settleAll (idField : String) (response : Json) (items : List Json) (edits : List Edit) :
    List Json :=
  edits.foldl (fun items e => (e.settledAs idField response items).onList idField items) items

/-- A row of edits is settled one after the other. -/
theorem foldl_settled (idField : String) (response : Json) (items : List Json)
    (edits : List Edit) :
    edits.foldl (fun v e => e.settled idField response v) (.arr items) =
      .arr (settleAll idField response items edits) := by
  induction edits generalizing items with
  | nil => rfl
  | cons e edits ih =>
      rw [List.foldl_cons, settled_arr, ih]
      rfl

/-- What neither the edits nor the answer name stays as it is, and in its order. -/
theorem sublist_settleAll {edits : List Edit} (hkept : kept.Sublist items)
    (hedits : ∀ item ∈ kept, ∀ e ∈ edits, e.names idField item = false)
    (hresponse : ∀ item ∈ kept, ∀ own, response.field? idField = some own →
      hasId idField own item = false) :
    kept.Sublist (settleAll idField response items edits) := by
  refine List.foldlRecOn edits _ hkept fun items hkept e he => ?_
  refine sublist_onList hkept fun item hitem => Bool.eq_false_iff.mpr fun hnames => ?_
  rcases names_settledAs hnames with hown | ⟨own, hfield, hhas⟩
  · rw [hedits item hitem e he] at hown
    cases hown
  · rw [hresponse item hitem own hfield] at hhas
    cases hhas

/-- One edit after the other is regular, and finds a keyed list. -/
theorem keyed_settled (h : Keyed idField items) (hregular : e.Regular idField)
    (hresponse : Identified idField response) (hdistinct : response.FieldsDistinct) :
    Keyed idField ((e.settledAs idField response items).onList idField items) :=
  keyed_onList h (regular_settledAs hregular hresponse hdistinct items) fun _ _ =>
    not_names_of_settledAs

section SettleAll

variable {edits : List Edit} {own : Json} (hresponse : Identified idField response)
  (hdistinct : response.FieldsDistinct) (hedits : ∀ e ∈ edits, e.Regular idField)
  (hitems : Keyed idField items)

include hresponse hdistinct hedits hitems

/-- After all edits of a write the list has each id once. -/
theorem keyed_settleAll : Keyed idField (settleAll idField response items edits) :=
  List.foldlRecOn edits _ hitems fun _ h e he =>
    keyed_settled h (hedits e he) hresponse hdistinct

/-- What each edit preserves that is made on a keyed list, all of them preserve. -/
theorem settleAll_induction {P : List Json → Prop} (hstart : P items)
    (hstep : ∀ e ∈ edits, ∀ items, (∀ item ∈ items, Identified idField item) →
      (e.settledAs idField response items).Regular idField → P items →
        P ((e.settledAs idField response items).onList idField items)) :
    P (settleAll idField response items edits) := by
  have hboth : Keyed idField (settleAll idField response items edits) ∧
      P (settleAll idField response items edits) := by
    refine List.foldlRecOn (motive := fun items => Keyed idField items ∧ P items) edits _
      ⟨hitems, hstart⟩ fun items h e he => ?_
    have hmade := regular_settledAs (hedits e he) hresponse hdistinct items
    exact ⟨keyed_settled h.1 (hedits e he) hresponse hdistinct,
      hstep e he items h.1.identified hmade h.2⟩
  exact hboth.2

/-- Where the server has returned a record, its id is the only one that may be new. -/
theorem of_mem_writtenIds_settleAll (hown : response.field? idField = some own) :
    ∀ s ∈ writtenIds idField (settleAll idField response items edits),
      s ∈ writtenIds idField items ∨ s = own.written := by
  refine settleAll_induction hresponse hdistinct hedits hitems
    (P := fun l => ∀ s ∈ writtenIds idField l, s ∈ writtenIds idField items ∨ s = own.written)
    (fun s => Or.inl) ?_
  intro e _ here hidentified hmade ih s hs
  rcases of_mem_writtenIds_onList hmade hidentified hs with hold | ⟨record, place, hinsert, hid⟩
  · exact ih s hold
  · obtain rfl := eq_of_settledAs_insert hown hinsert
    rw [writtenId?, hown] at hid
    exact Or.inr (Option.some.inj hid).symm

/-- And no record without an id is new. -/
theorem of_mem_settleAll (hown : response.field? idField = some own) :
    ∀ item ∈ settleAll idField response items edits, item.field? idField = none → item ∈ items := by
  refine settleAll_induction hresponse hdistinct hedits hitems
    (P := fun l => ∀ item ∈ l, item.field? idField = none → item ∈ items)
    (fun item hmem _ => hmem) ?_
  intro e _ here hidentified hmade ih item hmem hnone
  rcases of_mem_onList hmade hidentified hmem hnone with hold | ⟨place, hinsert⟩
  · exact ih item hold hnone
  · rw [eq_of_settledAs_insert hown hinsert, hown] at hnone
    cases hnone

/-- Only a deletion takes an id away. -/
theorem mem_writtenIds_settleAll {s : String} (hs : s ∈ writtenIds idField items)
    (hstays : ∀ id, .delete id ∈ edits → id.written ≠ s) :
    s ∈ writtenIds idField (settleAll idField response items edits) := by
  refine settleAll_induction hresponse hdistinct hedits hitems
    (P := fun l => s ∈ writtenIds idField l) hs ?_
  intro e he here hidentified hmade ih
  refine mem_writtenIds_onList hmade hidentified ih fun id hdelete => hstays id ?_
  rw [← eq_of_settledAs_delete hdelete]
  exact he

/-- The record that the server returned is there if the write adds one. -/
theorem mem_writtenIds_settleAll_of_insert (hown : response.field? idField = some own)
    (hinsert : .insert record place ∈ edits)
    (hstays : ∀ id, .delete id ∈ edits → id.written ≠ own.written) :
    own.written ∈ writtenIds idField (settleAll idField response items edits) := by
  obtain ⟨before, later, rfl⟩ := List.append_of_mem hinsert
  obtain ⟨hbefore, hinserted, hlater⟩ := List.forall_mem_append.mp hedits |>.imp_right
    List.forall_mem_cons.mp
  have hhere := keyed_settleAll hresponse hdistinct hbefore hitems
  have hadded := keyed_settled hhere hinserted hresponse hdistinct
  have hthere := mem_writtenIds_of_insert hown hresponse hdistinct hhere.identified record place
  have hstill := mem_writtenIds_settleAll hresponse hdistinct hlater hadded hthere fun id hid =>
    hstays id (List.mem_append_right before (List.mem_cons_of_mem _ hid))
  unfold settleAll at hstill ⊢
  rw [List.foldl_append]
  exact hstill

end SettleAll

end Edit

namespace Overlays

/-- The base after a confirmation is the base with the edits of the write settled on it.  Where no
other edits are pending, the base is what is shown. -/
theorem base_commit {o : Overlays} {k : Key} {log : Overlay} (hlog : o.get? k = some log)
    (write : Nat) (response : Json) (shown : Version) :
    ((o.commit write k response).2.logOn k
        ((o.commit write k response).1.getD shown)).base.value =
      (log.pending.filter fun p => p.write == write).foldl
        (fun v p => p.edit.settled o.idField response v) log.base.value := by
  unfold commit logOn
  rw [hlog]
  simp only [List.partition_eq_filter_filter]
  cases hown : log.pending.filter fun p => p.write == write with
  | nil => simp [hlog]
  | cons p own =>
      simp only [List.isEmpty_cons, Bool.false_eq_true, if_false]
      rw [get?_settle, if_pos rfl]
      split
      · rename_i hempty
        rw [settle_of_empty _ k hempty]
        rfl
      · rfl

/-- What a confirmation leaves of a list, the edits of the write being these. -/
structure Folded (idField : String) (edits : List Edit) (response : Json)
    (items items' : List Json) : Prop where
  /-- No two records have one id. -/
  keyed : Keyed idField items'
  /-- Every record that neither an edit nor the answer names is still there, as it was, and in its
  place among the others. -/
  kept : (items.filter fun item => edits.all (fun e => !e.names idField item) &&
    ((response.field? idField).all fun own => !hasId idField own item)).Sublist items'
  /-- Where the server returned a record, the id of an added one is there only if it was there
  before or is that of the returned one. -/
  replaced : ∀ own, response.field? idField = some own → ∀ guess place id,
    .insert guess place ∈ edits → guess.field? idField = some id →
      (∃ item ∈ items', hasId idField id item = true) →
        (∃ item ∈ items, hasId idField id item = true) ∨ sameId id own = true
  /-- And an added one without an id is there only if it was there before. -/
  unnamed : (response.field? idField).isSome → ∀ guess place, .insert guess place ∈ edits →
    guess.field? idField = none → guess ∈ items' → guess ∈ items
  /-- The returned record itself is there if one was added, unless the write deletes it. -/
  added : ∀ own, response.field? idField = some own →
    (∃ guess place, .insert guess place ∈ edits) →
      (∀ id, .delete id ∈ edits → sameId id own = false) →
        ∃ item ∈ items', hasId idField own item = true

/-- After all edits of a write the list is what the confirmation is to leave. -/
theorem folded_settleAll {idField : String} {edits : List Edit} {response : Json}
    {items : List Json} (hitems : Keyed idField items)
    (hedits : ∀ e ∈ edits, e.Regular idField) (hresponse : Identified idField response)
    (hdistinct : response.FieldsDistinct) :
    Folded idField edits response items (Edit.settleAll idField response items edits) := by
  have hkeyed := Edit.keyed_settleAll hresponse hdistinct hedits hitems
  refine ⟨hkeyed, ?_, ?_, ?_, ?_⟩
  · refine Edit.sublist_settleAll List.filter_sublist ?_ ?_
    · intro item hitem e he
      have hother := (Bool.and_eq_true_iff.mp (List.mem_filter.mp hitem).2).1
      simpa using List.all_eq_true.mp hother e he
    · intro item hitem own hown
      have hother := (Bool.and_eq_true_iff.mp (List.mem_filter.mp hitem).2).2
      simpa [hown] using hother
  · intro own hown guess place id hinsert hid hthere
    have hguess : id.IsId := (hedits _ hinsert).1 id hid
    have hwritten := (exists_hasId_iff hkeyed.identified hguess).mp hthere
    rcases Edit.of_mem_writtenIds_settleAll hresponse hdistinct hedits hitems hown _ hwritten with
      hold | hnew
    · exact Or.inl ((exists_hasId_iff hitems.identified hguess).mpr hold)
    · exact Or.inr ((sameId_iff hguess (hresponse own hown)).mpr hnew)
  · intro hreturned guess place _ hnone hmem
    obtain ⟨own, hown⟩ := Option.isSome_iff_exists.mp hreturned
    exact Edit.of_mem_settleAll hresponse hdistinct hedits hitems hown guess hmem hnone
  · intro own hown hinsert hstays
    obtain ⟨guess, place, hmem⟩ := hinsert
    refine (exists_hasId_iff hkeyed.identified (hresponse own hown)).mpr ?_
    refine Edit.mem_writtenIds_settleAll_of_insert hresponse hdistinct hedits hitems hown hmem
      fun id hdelete heq => ?_
    have hsame := (sameId_iff (hedits _ hdelete) (hresponse own hown)).mpr heq
    rw [hstays id hdelete] at hsame
    cases hsame

/-- **A confirmation adds the returned record once and loses nothing.**  The base is a list in which
no two records have one id, and the write has any edits pending on it, among those of other
writes.  That an object has no name twice is what every object made from a list of fields has
(`Json.fieldsDistinct_ofFields`). -/
theorem confirmed_once {o : Overlays} {k : Key} {log : Overlay} {items : List Json} {write : Nat}
    {response : Json} (hlog : o.get? k = some log) (hbase : log.base.value = .arr items)
    (hitems : Keyed o.idField items)
    (hedits : ∀ p ∈ log.pending, p.write = write → p.edit.Regular o.idField)
    (hresponse : Identified o.idField response) (hdistinct : response.FieldsDistinct)
    (shown : Version) :
    let edits := (log.pending.filter fun p => p.write == write).map PendingEdit.edit
    let confirmed := o.commit write k response
    ∃ items', (confirmed.2.logOn k (confirmed.1.getD shown)).base.value = .arr items' ∧
      Folded o.idField edits response items items' := by
  intro edits confirmed
  refine ⟨Edit.settleAll o.idField response items edits, ?_, ?_⟩
  · rw [base_commit hlog write response shown, hbase, ← Edit.foldl_settled, List.foldl_map]
  · refine folded_settleAll hitems (fun e he => ?_) hresponse hdistinct
    obtain ⟨p, hp, rfl⟩ := List.mem_map.mp he
    obtain ⟨hpending, hwrite⟩ := List.mem_filter.mp hp
    exact hedits p hpending (beq_iff_eq.mp hwrite)

/-- A refetch has brought the room that write 1 adds, with the id written as a text.  The write also
changes the first room, and write 2 waits between its edits. -/
def roomAdded : Overlay :=
  { base := ⟨0, .arr [
      .ofFields [("id", .num (.int 1)), ("name", .str "North")],
      .ofFields [("id", .str "99"), ("name", .str "West")],
      .ofFields [("id", .num (.int 3)), ("name", .str "South")]]⟩
    pending := [
      ⟨1, .insert (.ofFields [("id", .str "temp-1"), ("name", .str "West")]) .front⟩,
      ⟨2, .update (.num (.int 3)) (.ofFields [("name", .str "East")])⟩,
      ⟨1, .update (.str "1") (.ofFields [("name", .str "Hall")])⟩] }

/-- The room as the server knows it. -/
def room : Json :=
  .ofFields [("id", .num (.int 99)), ("name", .str "West"), ("seats", .num (.int 12))]

def roomKey : Key := ⟨"getRooms:0"⟩

def roomOverlays : Overlays :=
  { idField := "id", logs := (∅ : KeyMap Overlay).insert roomKey roomAdded, nextStamp := 1 }

/-- The room that the refetch has brought is there once, and as the server knows it. -/
theorem confirmed_once_refetched :
    (roomOverlays.get? roomKey = some roomAdded ∧ Keyed "id" (roomAdded.base.value.items?.getD []) ∧
      ∀ p ∈ roomAdded.pending, p.write = 1 → p.edit.Regular "id") ∧
    (((roomOverlays.commit 1 roomKey room).2.get? roomKey).map fun log =>
      (log.base.value.items?.getD [], log.pending.map PendingEdit.write)) =
      some ([.ofFields [("id", .num (.int 1)), ("name", .str "Hall")],
        .ofFields [("id", .num (.int 99)), ("name", .str "West"), ("seats", .num (.int 12))],
        .ofFields [("id", .num (.int 3)), ("name", .str "South")]], [2]) ∧
    ∃ items', ((roomOverlays.commit 1 roomKey room).2.logOn roomKey
        ((roomOverlays.commit 1 roomKey room).1.getD roomAdded.base)).base.value = .arr items' ∧
      Folded "id" ((roomAdded.pending.filter fun p => p.write == 1).map PendingEdit.edit) room
        (roomAdded.base.value.items?.getD []) items' := by
  have hlog : roomOverlays.get? roomKey = some roomAdded := by decide +kernel
  have hitems : Keyed "id" (roomAdded.base.value.items?.getD []) := by decide +kernel
  have hedits : ∀ p ∈ roomAdded.pending, p.write = 1 → p.edit.Regular "id" := by decide +kernel
  have hroom : Identified "id" room := by decide +kernel
  refine ⟨⟨hlog, hitems, hedits⟩, by decide +kernel, ?_⟩
  exact confirmed_once hlog rfl hitems hedits hroom (Json.fieldsDistinct_ofFields _) roomAdded.base

end Overlays

end QueryCache
