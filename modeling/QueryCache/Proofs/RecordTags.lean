import QueryCache.Classroom.Catalog
import QueryCache.Proofs.ClassChanges
import QueryCache.Proofs.CompactText
import QueryCache.Proofs.Families
/-!
# Edits and tags mean the same records

Servers write one id as a number in one place and as a text in another.  An edit compares its id with
those of the records, by a rule for each pair of kinds (`sameId`).  A tag holds an id as it is written
(`idText?`).  Numbers with one text are one number, so both tell ids apart alike (`sameId_iff_idText`).
Only zeros with a point are an exception: a minus before one is seen in its text and makes no difference
to an edit.

As long as ids are integers and texts, an edit therefore finds the records for which a list provides the
tag of its id, and no others (`hasId_iff_recordTag`).  So what an edit of a list touches is told by the
tags (`edits_follow_tags`), and a class that is changed or deleted makes a list of classes stale exactly
if the edit finds it there (`hits_listing_iff`).  The lists are bare ones: what stands under `items` has
its tags too, but is not edited.
-/

namespace QueryCache

/-- A zero with a point, with or without a minus before it. -/
def Json.isPointZero : Json → Bool
  | .num (.float x) => x.isZero
  | _ => false

/-- Numbers are compared by value: only zeros with a point may be the same and yet two numbers. -/
theorem Number.same_iff (m n : Number) : m.same n = true ↔
    m = n ∨ (Json.num m).isPointZero = true ∧ (Json.num n).isPointZero = true := by
  cases m with
  | int m => cases n <;> simp [Number.same, Json.isPointZero]
  | float x => cases n <;> simp [Number.same, Json.isPointZero, Binary64.same]

theorem Json.text_num_inj {m n : Number} : (Json.num m).text = (Json.num n).text ↔ m = n := by
  constructor
  · exact fun h => numberText_injective (String.ofList_injective h)
  · exact fun h => h ▸ rfl

namespace Classroom

variable {idField kind text : String} {a b record : Json} {items : List Json}

/-! ## Ids -/

/-- **Edits tell ids apart as they are written**, but for zeros with a point. -/
theorem sameId_iff_idText (ha : (idText? a).isSome = true) (hb : (idText? b).isSome = true) :
    sameId a b = true ↔
      idText? a = idText? b ∨ a.isPointZero = true ∧ b.isPointZero = true := by
  match a, b, ha, hb with
  | .str s, .str t, _, _ => simp [sameId, idText?, Json.isPointZero]
  | .str s, .num n, _, _ =>
      show ((Json.num n).text == s) = true ↔ some s = some (Json.num n).text ∨ false = true ∧ _
      rw [beq_iff_eq, Option.some_inj, eq_comm]
      simp
  | .num m, .str t, _, _ =>
      show ((Json.num m).text == t) = true ↔ some (Json.num m).text = some t ∨ _ ∧ false = true
      simp
  | .num m, .num n, _, _ =>
      show m.same n = true ↔ some (Json.num m).text = some (Json.num n).text ∨ _
      rw [Option.some_inj, Json.text_num_inj]
      exact Number.same_iff m n

/-- With such zeros among them, ids would not fall into classes. -/
example :
    let zero : Json := .num (.float .zero)
    let minusZero : Json := .num (.float Binary64.zero.neg)
    sameId (.str "0.0") zero = true ∧ sameId zero minusZero = true ∧
      sameId (.str "0.0") minusZero = false := by
  decide +kernel

/-- Integers and texts stand in tags as they are written. -/
theorem idText?_of_isId (h : a.IsId) : idText? a = some a.written := by
  match a, h with
  | .str _, _ | .num (.int _), _ => rfl

theorem isPointZero_of_isId (h : a.IsId) : a.isPointZero = false := by
  match a, h with
  | .str _, _ | .num (.int _), _ => rfl

/-- Such ids are the same for an edit if they are in tags. -/
theorem sameId_iff_of_isId (ha : a.IsId) (hb : b.IsId) :
    sameId a b = true ↔ idText? a = idText? b := by
  rw [sameId_iff_idText (by simp [idText?_of_isId ha]) (by simp [idText?_of_isId hb]),
    isPointZero_of_isId ha]
  simp

/-- Integers and texts fall into classes of the same id. -/
theorem sameId_equivalence :
    Equivalence fun a b : { v : Json // v.IsId } => sameId a b = true where
  refl a := (sameId_iff_of_isId a.2 a.2).mpr rfl
  symm {a b} h := by
    rw [sameId_iff_of_isId a.2 b.2] at h
    exact (sameId_iff_of_isId b.2 a.2).mpr h.symm
  trans {a b c} hab hbc := by
    rw [sameId_iff_of_isId a.2 b.2] at hab
    rw [sameId_iff_of_isId b.2 c.2] at hbc
    exact (sameId_iff_of_isId a.2 c.2).mpr (hab.trans hbc)

/-! ## Records -/

/-- The tag that a list provides for a record, if the record has an id. -/
def recordTag? (kind : String) (record : Json) : Option Tag :=
  (record.field? "id" >>= idText?).map (Tag.ofId kind)

/-- A list provides the tag of its kind and then those of its records. -/
theorem listTags_arr (kind : String) (items : List Json) :
    listTags kind (.arr items) = .ofKind kind :: items.filterMap (recordTag? kind) := rfl

/-- All that an answer with a list provides is of one kind. -/
theorem kind_of_mem_listTags {answer : Json} {t : Tag} (h : t ∈ listTags kind answer) :
    t.kind = kind := by
  rcases List.mem_cons.mp h with rfl | hrecord
  · rfl
  · obtain ⟨record, -, htag⟩ := List.mem_filterMap.mp hrecord
    obtain ⟨id, -, rfl⟩ := Option.map_eq_some_iff.mp htag
    rfl

/-- A record has the tag of its id, as that is written. -/
theorem recordTag?_eq_some : recordTag? kind record = some (.ofId kind text) ↔
    record.field? "id" >>= idText? = some text := by
  unfold recordTag?
  cases record.field? "id" >>= idText? <;> simp [Tag.ofId]

/-- **An edit finds the records that have the tag of its id.** -/
theorem hasId_iff_recordTag (ha : a.IsId) (htext : idText? a = some text)
    (hfield : record.field? idField = record.field? "id") (hrecord : Identified "id" record) :
    hasId idField a record = true ↔ recordTag? kind record = some (.ofId kind text) := by
  rw [recordTag?_eq_some, hasId, hfield, ← htext]
  cases hown : record.field? "id" with
  | none => simp [htext]
  | some own => exact sameId_iff_of_isId (hrecord own hown) ha

section Lists

variable (ha : a.IsId) (htext : idText? a = some text)
  (hfield : ∀ record ∈ items, record.field? idField = record.field? "id")
  (hitems : ∀ record ∈ items, Identified "id" record)

include ha htext hfield hitems

/-- A change is merged into the records that have the tag. -/
theorem update_arr (kind : String) (changes : Json) :
    (Edit.update a changes).apply idField (.arr items) = .arr (items.map fun record =>
      if recordTag? kind record = some (.ofId kind text) then record.merge changes
      else record) := by
  refine congrArg Json.arr (List.map_congr_left fun record hrecord => ?_)
  have hfound : hasId idField a record = true ↔ recordTag? kind record = some (.ofId kind text) :=
    hasId_iff_recordTag ha htext (hfield record hrecord) (hitems record hrecord)
  simp only [hfound]

/-- A deletion leaves the records that have another tag or none. -/
theorem delete_arr (kind : String) :
    (Edit.delete a).apply idField (.arr items) = .arr (items.filter fun record =>
      recordTag? kind record ≠ some (.ofId kind text)) := by
  refine congrArg Json.arr (List.filter_congr fun record hrecord => ?_)
  have hfound : hasId idField a record = true ↔ recordTag? kind record = some (.ofId kind text) :=
    hasId_iff_recordTag ha htext (hfield record hrecord) (hitems record hrecord)
  simp only [ne_eq, ← hfound, Bool.not_eq_true, Bool.decide_eq_false]

/-- A list provides the tag exactly if there is a record for an edit to find. -/
theorem mem_listTags_iff (kind : String) :
    Tag.ofId kind text ∈ listTags kind (.arr items) ↔
      ∃ record ∈ items, hasId idField a record = true := by
  have hother : Tag.ofId kind text ≠ .ofKind kind := by simp [Tag.ofId, Tag.ofKind]
  rw [listTags_arr, List.mem_cons, or_iff_right hother, List.mem_filterMap]
  refine exists_congr fun record => and_congr_right fun hrecord => ?_
  exact (hasId_iff_recordTag ha htext (hfield record hrecord) (hitems record hrecord)).symm

end Lists

/-- **Edits and tags mean the same records.**  Integers and texts are one id to an edit exactly if they
have one text in tags, so they fall into classes.  In a list of records with such ids, where edits find
the same id in their field as tags find in `id`, an update by an id is made to the records for which the
list provides the tag of that id, and to no others; and a deletion takes out these and no others. -/
theorem edits_follow_tags :
    (∀ a b : Json, a.IsId → b.IsId → (sameId a b = true ↔ idText? a = idText? b)) ∧
    (Equivalence fun a b : { v : Json // v.IsId } => sameId a b = true) ∧
    ∀ (idField kind : String) (a : Json) (items : List Json), a.IsId →
      (∀ record ∈ items, record.field? idField = record.field? "id") →
      (∀ record ∈ items, Identified "id" record) →
      listTags kind (.arr items) = .ofKind kind :: items.filterMap (recordTag? kind) ∧
      ∃ text, idText? a = some text ∧
        (∀ changes, (Edit.update a changes).apply idField (.arr items) =
          .arr (items.map fun record =>
            if recordTag? kind record = some (.ofId kind text) then record.merge changes
            else record)) ∧
        (Edit.delete a).apply idField (.arr items) =
          .arr (items.filter fun record => recordTag? kind record ≠ some (.ofId kind text)) := by
  refine ⟨fun a b => sameId_iff_of_isId, sameId_equivalence, ?_⟩
  intro idField kind a items ha hfield hitems
  have htext := idText?_of_isId ha
  refine ⟨listTags_arr kind items, a.written, htext, ?_, ?_⟩
  · exact update_arr ha htext hfield hitems kind
  · exact delete_arr ha htext hfield hitems kind

/-- Two records with one id in both its forms, one with another id, and one with none. -/
def mixedRecords : List Json :=
  [.ofFields [("id", .num (.int (-7))), ("name", .str "a")],
    .ofFields [("id", .str "-7"), ("name", .str "b")],
    .ofFields [("id", .str "-07"), ("name", .str "c")], .ofFields [("name", .str "d")]]

/-- The first two have the tag of the id, and are changed and deleted by it. -/
theorem edits_follow_tags_mixed :
    let seven : Json := .num (.int (-7))
    let renamed : Json := .ofFields [("name", .str "e")]
    seven.IsId ∧ (∀ record ∈ mixedRecords, Identified "id" record) ∧
    (sameId seven (.str "-7") = true ∧ sameId seven (.str "-07") = false) ∧
    listTags "Class" (.arr mixedRecords) =
      [.ofKind "Class", .ofId "Class" "-7", .ofId "Class" "-7", .ofId "Class" "-07"] ∧
    (Edit.update seven renamed).apply "id" (.arr mixedRecords) =
      .arr [.ofFields [("id", seven), ("name", .str "e")],
        .ofFields [("id", .str "-7"), ("name", .str "e")],
        .ofFields [("id", .str "-07"), ("name", .str "c")], .ofFields [("name", .str "d")]] ∧
    (Edit.delete seven).apply "id" (.arr mixedRecords) =
      .arr [.ofFields [("id", .str "-07"), ("name", .str "c")], .ofFields [("name", .str "d")]] := by
  intro seven renamed
  have hseven : seven.IsId := trivial
  have hids : ∀ record ∈ mixedRecords, Identified "id" record := by decide +kernel
  obtain ⟨hsame, -, hlists⟩ := edits_follow_tags
  obtain ⟨htags, text, htext, hupdate, hdelete⟩ :=
    hlists "id" "Class" seven mixedRecords hseven (fun _ _ => rfl) hids
  obtain rfl : text = "-7" := Option.some.inj (htext.symm.trans (by decide +kernel))
  have hsigned := (hsame seven (.str "-7") hseven trivial).mpr (by decide +kernel)
  have hpadded : sameId seven (.str "-07") = false := by
    refine Bool.eq_false_iff.mpr fun h => absurd ((hsame seven (.str "-07") hseven trivial).mp h) ?_
    decide +kernel
  refine ⟨hseven, hids, ⟨hsigned, hpadded⟩, ?_, ?_, ?_⟩
  · exact htags.trans (by decide +kernel)
  · exact (hupdate renamed).trans (by decide +kernel)
  · exact hdelete.trans (by decide +kernel)

/-! ## Lists of classes -/

/-- A class makes stale, besides itself, the dashboard and the analytics. -/
theorem leads_class {u : Tag} (h : cascade.Leads (.ofId "Class" text) u) :
    u = .ofId "Class" text ∨ u = .ofKind "Dashboard" ∨ u = .ofKind "Analytics" := by
  have hrows : cascade.OfFamilies := by decide +kernel
  have hnext : cascade.successors (.ofId "Class" text) =
      [.ofKind "Dashboard", .ofKind "Analytics"] := by
    rw [Cascade.successors_member hrows]
    decide +kernel
  have hlast : ∀ t ∈ cascade.successors (.ofId "Class" text), cascade.successors t = [] := by
    rw [hnext]
    decide +kernel
  -- Neither of the two has a row, so no chain of relations goes on from there.
  induction h with
  | refl => exact Or.inl rfl
  | tail _ hstep ih =>
      rcases ih with rfl | hfurther
      · rw [hnext] at hstep
        exact Or.inr (by simpa using hstep)
      · have hnone := hlast _ (by rw [hnext]; simpa using hfurther)
        rw [hnone] at hstep
        cases hstep

/-- **A class makes a list stale exactly if its edit finds it there.**  When the server has confirmed
that a class was changed or deleted, what this declares stale hits a list of classes exactly if an edit
by the id of the class has a record to find in it. -/
theorem hits_listing_iff {m : Mutation} (hmutation : m = updateClass ∨ m = deleteClass)
    {args : Json} (hid : args.field? "id" = some a) (ha : a.IsId)
    (hfield : ∀ record ∈ items, record.field? idField = record.field? "id")
    (hitems : ∀ record ∈ items, Identified "id" record)
    (name path : String) (parameters : List String) (call response : Json) :
    cascade.Hits (m.stales args response)
        ((listing name path "Class" parameters).tagsOf call (.arr items)) ↔
      ∃ record ∈ items, hasId idField a record = true := by
  have htext := idText?_of_isId ha
  have hstales : m.stales args response = [.ofId "Class" a.written] := by
    have hargument : argument "id" args = a.written := by
      simp only [argument, hid, Option.bind_eq_bind, Option.bind_some, htext, Option.getD_some]
    rcases hmutation with rfl | rfl
    · exact congrArg (fun id => [Tag.ofId "Class" id]) hargument
    · exact congrArg (fun id => [Tag.ofId "Class" id]) hargument
  rw [hstales, ← mem_listTags_iff ha htext hfield hitems "Class"]
  constructor
  · rintro ⟨t, ht, u, hleads, p, hp, hcovers⟩
    obtain rfl := List.mem_singleton.mp ht
    have hprovided : p ∈ listTags "Class" (.arr items) :=
      List.contains_iff_mem.mp (Std.ExtTreeSet.mem_ofList.mp hp)
    -- So the list is not hit by way of the dashboard or the analytics.
    have hkind := kind_of_mem_listTags hprovided
    rcases leads_class hleads with rfl | rfl | rfl
    · exact (Tag.ofId_covers "Class" _ p).mp hcovers ▸ hprovided
    · exact absurd (((Tag.ofKind_covers _ p).mp hcovers).symm.trans hkind) (by decide)
    · exact absurd (((Tag.ofKind_covers _ p).mp hcovers).symm.trans hkind) (by decide)
  · intro hprovided
    exact hits_of_leads .refl hprovided

end Classroom

end QueryCache
