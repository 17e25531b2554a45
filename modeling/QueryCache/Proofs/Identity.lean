import QueryCache.Overlay.Edit
/-!
# Ids as they are written

One record may have the id `1` in one place and `"1"` in another.  As long as ids are integers and
texts, `sameId` compares how they are written (`sameId_iff`), so it is an equivalence, and which
records of a list an edit finds depends on the written ids alone (`hasId_iff`).

A list is `Keyed` if its ids are such and no two of its records have one.  The rest of the module
is what merging fields into a record does to its id: nothing, unless the changes bring another one
(`writtenId?_merge`).
-/

namespace QueryCache

namespace Json

/-- An integer or a text. -/
def IsId : Json → Prop
  | .num (.int _) | .str _ => True
  | _ => False

instance (v : Json) : Decidable v.IsId :=
  match v with
  | .num (.int _) | .str _ => isTrue trivial
  | .num (.float _) | .null | .bool _ | .arr _ | .obj _ => isFalse id

/-- An id as it is written. -/
def written : Json → String
  | .str s => s
  | v => v.text

/-- No two fields of an object have one name. -/
def FieldsDistinct : Json → Prop
  | .obj fields => (fields.map Prod.fst).Nodup
  | _ => True

instance (v : Json) : Decidable v.FieldsDistinct :=
  match v with
  | .obj fields => inferInstanceAs (Decidable (fields.map Prod.fst).Nodup)
  | .null | .bool _ | .num _ | .str _ | .arr _ => isTrue trivial

/-- Setting a field adds no other name. -/
theorem of_mem_withField {name k : String} {value : Json} {fields : List (String × Json)}
    (hk : k ∈ (withField name value fields).map Prod.fst) :
    k = name ∨ k ∈ fields.map Prod.fst := by
  induction fields with
  | nil => exact Or.inl (List.mem_singleton.mp hk)
  | cons p rest ih =>
      unfold withField at hk
      split at hk
      · exact (List.mem_cons.mp hk).imp_right id
      · split at hk
        · exact (List.mem_cons.mp hk).imp_right (List.mem_cons_of_mem _)
        · rcases List.mem_cons.mp hk with hhead | htail
          · exact Or.inr (hhead ▸ List.mem_cons_self)
          · exact (ih htail).imp_right (List.mem_cons_of_mem _)

/-- Setting a field keeps the names in order. -/
theorem sorted_withField (name : String) (value : Json) {fields : List (String × Json)}
    (h : (fields.map Prod.fst).Pairwise (· < ·)) :
    ((withField name value fields).map Prod.fst).Pairwise (· < ·) := by
  induction fields with
  | nil => exact List.pairwise_singleton _ _
  | cons p rest ih =>
      obtain ⟨hhead, hrest⟩ := List.pairwise_cons.mp h
      unfold withField
      split
      · rename_i hlt
        refine List.pairwise_cons.mpr ⟨fun k hk => ?_, h⟩
        rcases List.mem_cons.mp hk with rfl | hlater
        · exact hlt
        · exact String.lt_trans hlt (hhead k hlater)
      · split
        · rename_i heq
          exact List.pairwise_cons.mpr ⟨fun k hk => heq ▸ hhead k hk, hrest⟩
        · rename_i hnlt hne
          refine List.pairwise_cons.mpr ⟨fun k hk => ?_, ih hrest⟩
          rcases of_mem_withField hk with rfl | hlater
          · have hle : p.1 ≤ k := String.not_lt.mp hnlt
            exact Std.lt_of_le_of_ne hle (Ne.symm hne)
          · exact hhead k hlater

/-- Every object made from a list of fields has each name once. -/
theorem fieldsDistinct_ofFields (fields : List (String × Json)) :
    (ofFields fields).FieldsDistinct := by
  have hsorted : ∀ (l acc : List (String × Json)), (acc.map Prod.fst).Pairwise (· < ·) →
      ((l.foldl (fun acc p => withField p.1 p.2 acc) acc).map Prod.fst).Pairwise (· < ·) := by
    intro l
    induction l with
    | nil => exact fun acc h => h
    | cons p l ih => exact fun acc h => ih _ (sorted_withField p.1 p.2 h)
  exact (hsorted fields [] .nil).imp fun hlt => String.ne_of_lt hlt

/-- The decimal digits and the sign tell which integer is meant. -/
theorem intText_inj {m n : Int} (h : intText m = intText n) : m = n := by
  have hdigits : ∀ {a b : Nat}, Nat.toDigits 10 a = Nat.toDigits 10 b → a = b := by
    intro a b hab
    have hread := congrArg (fun digits => Nat.ofDigitChars 10 digits 0) hab
    simpa [Nat.ofDigitChars_toDigits] using hread
  have hsign : ∀ {a b : Nat}, '-' :: Nat.toDigits 10 a ≠ Nat.toDigits 10 b := by
    intro a b hab
    have hmem : '-' ∈ Nat.toDigits 10 b := hab ▸ List.mem_cons_self
    exact absurd (Nat.isDigit_of_mem_toDigits (by decide) (by decide) hmem) (by decide)
  unfold intText at h
  split at h <;> split at h
  · have := hdigits (List.cons.inj h).2
    omega
  · exact absurd h hsign
  · exact absurd h.symm hsign
  · have := hdigits h
    omega

end Json

/-- **Ids are the same if they are written alike.** -/
theorem sameId_iff {a b : Json} (ha : a.IsId) (hb : b.IsId) :
    sameId a b = true ↔ a.written = b.written := by
  match a, b, ha, hb with
  | .str s, .str t, _, _ => exact beq_iff_eq
  | .str s, .num (.int n), _, _ => exact beq_iff_eq.trans eq_comm
  | .num (.int m), .str t, _, _ => exact beq_iff_eq
  | .num (.int m), .num (.int n), _, _ =>
      refine beq_iff_eq.trans ⟨fun h => h ▸ rfl, fun h => ?_⟩
      exact Json.intText_inj (String.ofList_injective h)

/-! ## Records -/

/-- The id of the value, if it has one, is an integer or a text. -/
def Identified (idField : String) (record : Json) : Prop :=
  ∀ id, record.field? idField = some id → id.IsId

instance (idField : String) (record : Json) : Decidable (Identified idField record) :=
  decidable_of_iff ((record.field? idField).all fun id => decide id.IsId)
    (by simp [Identified, Option.all_eq_true])

/-- The id of a record as it is written. -/
def writtenId? (idField : String) (record : Json) : Option String :=
  (record.field? idField).map Json.written

variable {idField : String} {record changes id : Json}

/-- A record is found by how its id is written. -/
theorem hasId_iff (hrecord : Identified idField record) (hid : id.IsId) :
    hasId idField id record = true ↔ writtenId? idField record = some id.written := by
  unfold hasId writtenId?
  cases hown : record.field? idField with
  | none => simp
  | some own => simpa using sameId_iff (hrecord own hown) hid

/-- A field of a merged object is that of the changes, or else that of the record. -/
theorem lookup_merged (name : String) {changed : List (String × Json)}
    (hdistinct : (changed.map Prod.fst).Nodup) (fields : List (String × Json)) :
    (changed.foldl (fun acc p => Json.withField p.1 p.2 acc) fields).lookup name =
      (changed.lookup name).or (fields.lookup name) := by
  induction changed generalizing fields with
  | nil => rfl
  | cons p rest ih =>
      obtain ⟨k, v⟩ := p
      obtain ⟨hnew, hrest⟩ := List.nodup_cons.mp hdistinct
      rw [List.foldl_cons, ih hrest, Json.lookup_withField, List.lookup_cons]
      by_cases hk : name = k
      · subst hk
        have hlater : rest.lookup name = none := by
          rw [List.lookup_eq_none_iff]
          intro q hq
          have hne : q.1 ≠ name := fun heq => hnew (List.mem_map.mpr ⟨q, hq, heq⟩)
          simpa using hne.symm
        simp [hlater]
      · have hother : (name == k) = false := beq_false_of_ne hk
        rw [if_neg hk, hother]

/-- A field of the changes takes the place of the record's own. -/
theorem field?_merge (name : String) {record changes : Json}
    (hdistinct : changes.FieldsDistinct) :
    (record.merge changes).field? name =
      if record.isObject then (changes.field? name).or (record.field? name)
      else record.field? name := by
  cases record with
  | obj fields =>
      cases changes with
      | obj changed => exact lookup_merged name hdistinct fields
      | null | bool | num | str | arr => rfl
  | null | bool | num | str | arr => rfl

/-- Merging leaves an id that is an integer or a text. -/
theorem Identified.merge (hrecord : Identified idField record)
    (hchanges : Identified idField changes) (hdistinct : changes.FieldsDistinct) :
    Identified idField (record.merge changes) := by
  intro id hid
  rw [field?_merge idField hdistinct] at hid
  split at hid
  · rcases Option.or_eq_some_iff.mp hid with hnew | ⟨-, hold⟩
    · exact hchanges id hnew
    · exact hrecord id hold
  · exact hrecord id hid

/-- Changes that bring no other id leave the id of a record as it is written. -/
theorem writtenId?_merge (hdistinct : changes.FieldsDistinct)
    (hkeeps : ∀ own, changes.field? idField = some own →
      writtenId? idField record = some own.written) :
    writtenId? idField (record.merge changes) = writtenId? idField record := by
  unfold writtenId? at hkeeps ⊢
  rw [field?_merge idField hdistinct]
  split
  · cases hown : changes.field? idField with
    | none => rfl
    | some own => exact (hkeeps own hown).symm
  · rfl

/-! ## Lists of records -/

/-- No two records have the same id. -/
def IdsDistinct (idField : String) (items : List Json) : Prop :=
  items.Pairwise fun a b => ∀ i j,
    a.field? idField = some i → b.field? idField = some j → sameId i j = false

instance (idField : String) (items : List Json) : Decidable (IdsDistinct idField items) :=
  @List.instDecidablePairwise _ _ (fun a b =>
    decidable_of_iff
      ((a.field? idField).all fun i => (b.field? idField).all fun j => !sameId i j)
      (by
        simp only [Option.all_eq_true, Bool.not_eq_true']
        exact ⟨fun h i j hi hj => h i hi j hj, fun h i hi j hj => h i j hi hj⟩)) items

/-- The ids of a list as they are written. -/
def writtenIds (idField : String) (items : List Json) : List String :=
  items.filterMap (writtenId? idField)

structure Keyed (idField : String) (items : List Json) : Prop where
  identified : ∀ item ∈ items, Identified idField item
  distinct : IdsDistinct idField items

instance (idField : String) (items : List Json) : Decidable (Keyed idField items) :=
  decidable_of_iff ((∀ item ∈ items, Identified idField item) ∧ IdsDistinct idField items)
    ⟨fun h => ⟨h.1, h.2⟩, fun h => ⟨h.identified, h.distinct⟩⟩

variable {items : List Json}

theorem mem_writtenIds {s : String} :
    s ∈ writtenIds idField items ↔ ∃ item ∈ items, writtenId? idField item = some s :=
  List.mem_filterMap

/-- A record is found in a list if its id is among those written there. -/
theorem exists_hasId_iff (hitems : ∀ item ∈ items, Identified idField item) (hid : id.IsId) :
    (∃ item ∈ items, hasId idField id item = true) ↔ id.written ∈ writtenIds idField items := by
  rw [mem_writtenIds]
  constructor
  · rintro ⟨item, hmem, hhas⟩
    exact ⟨item, hmem, (hasId_iff (hitems item hmem) hid).mp hhas⟩
  · rintro ⟨item, hmem, hwritten⟩
    exact ⟨item, hmem, (hasId_iff (hitems item hmem) hid).mpr hwritten⟩

/-- Ids are distinct if they are written differently. -/
theorem idsDistinct_iff (hitems : ∀ item ∈ items, Identified idField item) :
    IdsDistinct idField items ↔ (writtenIds idField items).Nodup := by
  unfold IdsDistinct writtenIds List.Nodup
  rw [List.pairwise_filterMap]
  have hpair : ∀ {a b : Json}, a ∈ items → b ∈ items →
      ((∀ i j, a.field? idField = some i → b.field? idField = some j → sameId i j = false) ↔
        ∀ s, writtenId? idField a = some s → ∀ t, writtenId? idField b = some t → s ≠ t) := by
    intro a b ha hb
    unfold writtenId?
    constructor
    · intro hdistinct s hs t ht heq
      obtain ⟨i, hi, rfl⟩ := Option.map_eq_some_iff.mp hs
      obtain ⟨j, hj, rfl⟩ := Option.map_eq_some_iff.mp ht
      have hsame := (sameId_iff (hitems a ha i hi) (hitems b hb j hj)).mpr heq
      rw [hdistinct i j hi hj] at hsame
      cases hsame
    · intro hdistinct i j hi hj
      have hne := hdistinct i.written (by rw [hi]; rfl) j.written (by rw [hj]; rfl)
      have hiff := sameId_iff (hitems a ha i hi) (hitems b hb j hj)
      exact Bool.eq_false_iff.mpr fun hsame => hne (hiff.mp hsame)
  constructor
  · intro h
    exact h.imp_of_mem fun ha hb => (hpair ha hb).mp
  · intro h
    exact h.imp_of_mem fun ha hb => (hpair ha hb).mpr

end QueryCache
