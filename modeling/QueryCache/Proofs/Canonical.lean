import QueryCache.Key
import QueryCache.Proofs.CompactText
import Mathlib.Data.List.Perm.Basic
/-!
# What a key is made from

The bytes that are digested for a key tell the call, up to the order of object fields
(`Key.preimage_eq_iff`).  `Alike` values have the same fields in every object, in any order; on
values whose objects have each name once, `Proper` ones, being alike is having one canonical text.
All values that are read are proper (`proper_of_read?`).

An endpoint may be any text, also with a zero byte in it.  The canonical text has no control
character, so the last zero byte is the one before the arguments.
-/

namespace QueryCache

namespace Json

/-! ## Proper values -/

mutual

/-- Every object has each name once, at every depth. -/
def Proper : Json → Prop
  | .arr items => ProperItems items
  | .obj fields => (Json.obj fields).FieldsDistinct ∧ ProperFields fields
  | .null | .bool _ | .num _ | .str _ => True

def ProperItems : List Json → Prop
  | [] => True
  | v :: rest => v.Proper ∧ ProperItems rest

def ProperFields : List (String × Json) → Prop
  | [] => True
  | (_, v) :: rest => v.Proper ∧ ProperFields rest

end

/-! ## What is read is proper -/

section Reading

variable {fields : List (String × Json)} {name : String} {value : Json}

/-- A field that replaces one of its name leaves each name once. -/
theorem proper_withField (hvalue : value.Proper) (hfields : ProperFields fields) :
    ProperFields (withField name value fields) := by
  induction fields with
  | nil => exact ⟨hvalue, trivial⟩
  | cons p rest ih =>
      unfold withField
      split
      · exact ⟨hvalue, hfields⟩
      · split
        · exact ⟨hvalue, hfields.2⟩
        · exact ⟨hfields.1, ih hfields.2⟩

/-- Items are proper one by one. -/
theorem properItems_iff {vs : List Json} : ProperItems vs ↔ ∀ v ∈ vs, v.Proper := by
  induction vs with
  | nil => simp [ProperItems]
  | cons v vs ih => simp [ProperItems, ih]

/-- What the reader gathers is in order and proper. -/
structure Gathered (fields : List (String × Json)) : Prop where
  ordered : (fields.map Prod.fst).Pairwise (· < ·)
  proper : ProperFields fields

theorem Gathered.nil : Gathered [] := ⟨.nil, trivial⟩

/-- One more field is put in its place. -/
theorem Gathered.withField (h : Gathered fields) (hvalue : value.Proper) :
    Gathered (withField name value fields) :=
  ⟨sorted_withField name value h.ordered, proper_withField hvalue h.proper⟩

/-- Gathered fields make a proper object. -/
theorem Gathered.obj (h : Gathered fields) : (Json.obj fields).Proper :=
  ⟨h.ordered.imp String.ne_of_lt, h.proper⟩

mutual

/-- Values that are read are proper. -/
theorem proper_readValue : ∀ (bound depth : ℕ) (cs : List Char) {v : Json} {rest : List Char},
    readValue bound depth cs = some (v, rest) → v.Proper
  | 0, _, _, _, _, h => by cases h
  | bound + 1, depth, cs, v, rest, h => by
      have hmap : ∀ {α : Type} {make : α → Json} {found : Option (α × List Char)},
          (found.map fun p => (make p.1, p.2)) = some (v, rest) →
          ∃ a, found = some (a, rest) ∧ v = make a := by
        intro α make found hfound
        obtain ⟨⟨a, after⟩, hread, hpair⟩ := Option.map_eq_some_iff.mp hfound
        obtain ⟨rfl, rfl⟩ := Prod.mk.inj hpair
        exact ⟨a, hread, rfl⟩
      unfold readValue at h
      split at h
      · cases h; trivial
      · cases h; trivial
      · cases h; trivial
      · obtain ⟨s, -, rfl⟩ := hmap h
        trivial
      · obtain ⟨n, -, rfl⟩ := hmap h
        trivial
      · split at h
        · cases h
        · split at h
          · cases h; trivial
          · obtain ⟨items, hitems, rfl⟩ := hmap h
            exact proper_readItems bound _ [] _ trivial hitems
      · split at h
        · cases h
        · split at h
          · cases h; exact Gathered.nil.obj
          · obtain ⟨fields, hfields, rfl⟩ := hmap h
            exact (gathered_readFields bound _ _ _ Gathered.nil hfields).obj
      · split at h
        · obtain ⟨n, -, rfl⟩ := hmap h
          trivial
        · cases h
      · cases h

/-- Items that are read are proper, if those before them are. -/
theorem proper_readItems : ∀ (bound depth : ℕ) (acc : List Json) (cs : List Char)
    {vs : List Json} {rest : List Char}, ProperItems acc →
    readItems bound depth acc cs = some (vs, rest) → ProperItems vs
  | 0, _, _, _, _, _, _, h => by cases h
  | bound + 1, depth, acc, cs, vs, rest, hacc, h => by
      unfold readItems at h
      split at h
      · cases h
      · rename_i v after hvalue
        have hall : ProperItems (v :: acc) := ⟨proper_readValue bound depth cs hvalue, hacc⟩
        split at h
        · exact proper_readItems bound depth _ _ hall h
        · cases h
          exact properItems_iff.mpr fun u hu => properItems_iff.mp hall u (List.mem_reverse.mp hu)
        · cases h

/-- Fields that are read are gathered, one after the other. -/
theorem gathered_readFields : ∀ (bound depth : ℕ) (acc : List (String × Json)) (cs : List Char)
    {fs : List (String × Json)} {rest : List Char}, Gathered acc →
    readFields bound depth acc cs = some (fs, rest) → Gathered fs
  | 0, _, _, _, _, _, _, h => by cases h
  | bound + 1, depth, acc, cs, fs, rest, hacc, h => by
      unfold readFields at h
      split at h
      · split at h
        · cases h
        · split at h
          · split at h
            · cases h
            · rename_i v after hvalue
              have hproper := proper_readValue bound depth _ hvalue
              split at h
              · exact gathered_readFields bound depth _ _ (hacc.withField hproper) h
              · cases h
                exact hacc.withField hproper
              · cases h
          · cases h
      · cases h

end

/-- Every value that is read is proper. -/
theorem proper_of_read? {s : String} {v : Json} (h : read? s = some v) : v.Proper := by
  unfold read? at h
  dsimp only at h
  split at h
  · rename_i u rest hread
    split at h
    · cases h
      exact proper_readValue _ _ _ hread
    · cases h
  · cases h

end Reading

/-! ## Values alike -/

mutual

/-- Equal up to the order of object fields, at every depth. -/
inductive Alike : Json → Json → Prop
  | refl (v : Json) : Alike v v
  | arr {vs ws : List Json} : AlikeItems vs ws → Alike (.arr vs) (.arr ws)
  | obj {fs gs ordered : List (String × Json)} : AlikeFields fs ordered → ordered.Perm gs →
      Alike (.obj fs) (.obj gs)

/-- Item by item. -/
inductive AlikeItems : List Json → List Json → Prop
  | nil : AlikeItems [] []
  | cons {v w : Json} {vs ws : List Json} : Alike v w → AlikeItems vs ws →
      AlikeItems (v :: vs) (w :: ws)

/-- Field by field, with one name each. -/
inductive AlikeFields : List (String × Json) → List (String × Json) → Prop
  | nil : AlikeFields [] []
  | cons {k : String} {v w : Json} {fs gs : List (String × Json)} : Alike v w →
      AlikeFields fs gs → AlikeFields ((k, v) :: fs) ((k, w) :: gs)

end

/-- Sorting the fields of an object at depth goes value by value. -/
theorem sortedFields_eq_map (fields : List (String × Json)) :
    sortedFields fields = fields.map fun p => (p.1, p.2.sorted) := by
  induction fields with
  | nil => rfl
  | cons p rest ih => exact congrArg (_ :: ·) ih

/-- Fields in the order of their names. -/
def byName (fields : List (String × Json)) : List (String × Json) :=
  fields.mergeSort fun a b => decide (a.1 ≤ b.1)

/-- An object is sorted by sorting its values and ordering its fields. -/
theorem sorted_obj (fields : List (String × Json)) :
    (obj fields).sorted = .obj (byName (sortedFields fields)) := by
  rw [sorted, byName]

/-- Ordering fields keeps them all. -/
theorem perm_byName (fields : List (String × Json)) : (byName fields).Perm fields :=
  List.mergeSort_perm fields _

/-- Ordered fields stand in the order of their names. -/
theorem pairwise_byName (fields : List (String × Json)) :
    (byName fields).Pairwise fun a b => a.1 ≤ b.1 := by
  have htrans : ∀ a b c : String × Json, decide (a.1 ≤ b.1) = true → decide (b.1 ≤ c.1) = true →
      decide (a.1 ≤ c.1) = true :=
    fun _ _ _ hab hbc => decide_eq_true
      (String.le_trans (of_decide_eq_true hab) (of_decide_eq_true hbc))
  have htotal : ∀ a b : String × Json, (decide (a.1 ≤ b.1) || decide (b.1 ≤ a.1)) = true :=
    fun a b => by simpa using String.le_total a.1 b.1
  exact (List.pairwise_mergeSort htrans htotal fields).imp of_decide_eq_true

/-- With each name once, the order of the names is the order of the fields. -/
theorem byName_eq_of_perm {fs gs : List (String × Json)}
    (hdistinct : (fs.map Prod.fst).Nodup) (hperm : fs.Perm gs) : byName fs = byName gs := by
  refine List.Perm.eq_of_pairwise ?_ (pairwise_byName fs) (pairwise_byName gs)
    ((perm_byName fs).trans (hperm.trans (perm_byName gs).symm))
  intro a b ha hb hab hba
  have hname : a.1 = b.1 := String.le_antisymm hab hba
  exact List.inj_on_of_nodup_map hdistinct ((perm_byName fs).mem_iff.mp ha)
    (hperm.mem_iff.mpr ((perm_byName gs).mem_iff.mp hb)) hname

/-- Fields that are the same once their values are sorted are the same up to that. -/
theorem exists_ordered {fs gs : List (String × Json)}
    (h : (sortedFields fs).Perm (sortedFields gs)) :
    ∃ ordered, sortedFields fs = sortedFields ordered ∧ ordered.Perm gs := by
  rw [sortedFields_eq_map gs] at h
  have hcomp := (List.eq_map_comp_perm fun p : String × Json => (p.1, p.2.sorted))
  obtain ⟨ordered, hordered, hperm⟩ := (congrFun (congrFun hcomp (sortedFields fs)) gs).mpr h
  exact ⟨ordered, hordered.trans (sortedFields_eq_map ordered).symm, hperm⟩

mutual

/-- Values with one sorted form are alike. -/
theorem alike_of_sorted : ∀ (v w : Json), v.sorted = w.sorted → Alike v w
  | .arr vs, w, h => by
      cases w <;> simp only [sorted, Json.arr.injEq, reduceCtorEq] at h
      exact .arr (alikeItems_of_sorted vs _ h)
  | .obj fs, w, h => by
      rw [sorted_obj] at h
      cases w <;> simp only [sorted, Json.obj.injEq, reduceCtorEq] at h
      rename_i gs
      have hperm : (sortedFields fs).Perm (sortedFields gs) :=
        (perm_byName _).symm.trans (h ▸ perm_byName (sortedFields gs))
      obtain ⟨ordered, hordered, hperm⟩ := exists_ordered hperm
      exact .obj (alikeFields_of_sorted fs ordered hordered) hperm
  | .null, w, h | .bool _, w, h | .num _, w, h | .str _, w, h => by
      cases w <;> cases h
      exact .refl _

/-- Items with one sorted form are alike. -/
theorem alikeItems_of_sorted : ∀ (vs ws : List Json), sortedItems vs = sortedItems ws →
    AlikeItems vs ws
  | [], [], _ => .nil
  | [], _ :: _, h => by cases h
  | _ :: _, [], h => by cases h
  | v :: vs, w :: ws, h => by
      rw [sortedItems, sortedItems] at h
      obtain ⟨hv, hvs⟩ := List.cons.inj h
      exact .cons (alike_of_sorted v w hv) (alikeItems_of_sorted vs ws hvs)

/-- Fields with one sorted form, in the order in which they stand, are alike. -/
theorem alikeFields_of_sorted : ∀ (fs gs : List (String × Json)),
    sortedFields fs = sortedFields gs → AlikeFields fs gs
  | [], [], _ => .nil
  | [], (_, _) :: _, h => by cases h
  | (_, _) :: _, [], h => by cases h
  | (k, v) :: fs, (l, w) :: gs, h => by
      rw [sortedFields, sortedFields] at h
      obtain ⟨hfield, hfs⟩ := List.cons.inj h
      obtain ⟨rfl, hv⟩ := Prod.mk.inj hfield
      exact .cons (alike_of_sorted v w hv) (alikeFields_of_sorted fs gs hfs)

end

mutual

/-- Proper values that are alike have one sorted form. -/
theorem sorted_of_alike : ∀ (v : Json) {w : Json}, v.Proper → Alike v w → v.sorted = w.sorted
  | .arr vs, _, hproper, h => by
      cases h with
      | refl => rfl
      | arr hitems => exact congrArg Json.arr (sortedItems_of_alike vs hproper hitems)
  | .obj fs, _, hproper, h => by
      cases h with
      | refl => rfl
      | obj hfields hperm =>
          have hsame := sortedFields_of_alike fs hproper.2 hfields
          have hdistinct : ((sortedFields fs).map Prod.fst).Nodup := by
            rw [sortedFields_eq_map, List.map_map]
            exact hproper.1
          rw [sorted_obj, sorted_obj]
          refine congrArg Json.obj (byName_eq_of_perm hdistinct ?_)
          rw [hsame, sortedFields_eq_map, sortedFields_eq_map]
          exact hperm.map _
  | .null, _, _, h | .bool _, _, _, h | .num _, _, _, h | .str _, _, _, h => by
      cases h
      rfl

/-- Proper items that are alike have one sorted form. -/
theorem sortedItems_of_alike : ∀ (vs : List Json) {ws : List Json}, ProperItems vs →
    AlikeItems vs ws → sortedItems vs = sortedItems ws
  | [], _, _, h => by
      cases h
      rfl
  | v :: vs, _, hproper, h => by
      cases h with
      | cons hv hvs =>
          rw [sortedItems, sortedItems, sorted_of_alike v hproper.1 hv,
            sortedItems_of_alike vs hproper.2 hvs]

/-- Proper fields that are alike have one sorted form, up to their order. -/
theorem sortedFields_of_alike : ∀ (fs : List (String × Json)) {gs : List (String × Json)},
    ProperFields fs → AlikeFields fs gs → sortedFields fs = sortedFields gs
  | [], _, _, h => by
      cases h
      rfl
  | (k, v) :: fs, _, hproper, h => by
      cases h with
      | cons hv hfs =>
          rw [sortedFields, sortedFields, sorted_of_alike v hproper.1 hv,
            sortedFields_of_alike fs hproper.2 hfs]

end

/-- Values with one canonical text are alike. -/
theorem alike_of_canonical {v w : Json} (h : v.canonical = w.canonical) : Alike v w :=
  alike_of_sorted v w (render_injective (String.ofList_injective h))

end Json

namespace Key

open Json

/-! ## What is digested -/

theorem toList_byteArray (bytes : ByteArray) : bytes.toList = bytes.data.toList := by
  have hloop : ∀ (i : ℕ) (taken : List UInt8),
      ByteArray.toList.loop bytes i taken = taken.reverse ++ bytes.data.toList.drop i := by
    intro i taken
    induction i, taken using ByteArray.toList.loop.induct bytes with
    | case1 i taken hlt ih =>
        have hi : i < bytes.data.toList.length := by simpa using hlt
        have hget : bytes.get! i = bytes.data.toList[i] :=
          getElem!_pos bytes.data i (by simpa using hlt)
        rw [ByteArray.toList.loop, if_pos hlt, ih, List.drop_eq_getElem_cons hi, hget]
        simp
    | case2 i taken hge =>
        rw [ByteArray.toList.loop, if_neg hge, List.drop_eq_nil_of_le (by simpa using hge),
          List.append_nil]
  exact hloop 0 []

/-- The bytes of a call are those of one text. -/
theorem preimage_toUTF8 (endpoint : String) (args : Json) :
    preimage endpoint args = (endpoint ++ "\x00" ++ args.canonical).toUTF8.toList := by
  have hzero : "\x00".toByteArray.data.toList = [0] := by decide
  simp only [preimage, toList_byteArray, String.toUTF8_eq_toByteArray, String.toByteArray_append,
    ByteArray.toList_data_append, hzero]
  simp

/-- Two texts can be told apart again if the second holds no zero. -/
theorem append_zero_inj {s t u v : String} (ht : '\x00' ∉ t.toList) (hv : '\x00' ∉ v.toList)
    (h : s ++ "\x00" ++ t = u ++ "\x00" ++ v) : s = u ∧ t = v := by
  have hne : ∀ w : String, '\x00' ∉ w.toList →
      ∀ c ∈ w.toList.reverse, (c != '\x00') = true := by
    intro w hw c hc
    rw [bne_iff_ne]
    rintro rfl
    exact hw (List.mem_reverse.mp hc)
  have hzero : "\x00".toList = ['\x00'] := rfl
  have hchars := congrArg (fun w : String => w.toList.reverse) h
  simp only [String.toList_append, List.reverse_append, hzero, List.reverse_singleton,
    List.singleton_append] at hchars
  obtain ⟨htake, -⟩ := Decimal.split_at_mark s.toList.reverse (hne t ht)
  obtain ⟨htake', -⟩ := Decimal.split_at_mark u.toList.reverse (hne v hv)
  have hsecond : t.toList.reverse = v.toList.reverse := by rw [← htake, hchars, htake']
  rw [hsecond] at hchars
  have hfirst := (List.cons.inj (List.append_cancel_left hchars)).2
  exact ⟨String.toList_injective (List.reverse_injective hfirst),
    String.toList_injective (List.reverse_injective hsecond)⟩

/-- No zero byte in a canonical text. -/
theorem zero_notMem_canonical (v : Json) : '\x00' ∉ v.canonical.toList := by
  intro hmem
  have hprintable := printable_render v.sorted '\x00' (by simpa [canonical, Json.text] using hmem)
  exact absurd hprintable (by decide)

/-- The bytes fall apart at their last zero, so they tell the name and the canonical text. -/
theorem preimage_inj {e e' : String} {a a' : Json} (h : preimage e a = preimage e' a') :
    e = e' ∧ a.canonical = a'.canonical := by
  rw [preimage_toUTF8, preimage_toUTF8, toList_byteArray, toList_byteArray] at h
  have hbytes := ByteArray.ext (Array.toList_inj.mp h)
  exact append_zero_inj (zero_notMem_canonical a) (zero_notMem_canonical a')
    (String.toByteArray_inj.mp hbytes)

/-- **The bytes that make a key tell the call, up to the order of object fields.** -/
theorem preimage_eq_iff {e e' : String} {a a' : Json} (ha : a.Proper) :
    preimage e a = preimage e' a' ↔ e = e' ∧ a.Alike a' := by
  constructor
  · intro h
    obtain ⟨hendpoint, hargs⟩ := preimage_inj h
    exact ⟨hendpoint, alike_of_canonical hargs⟩
  · rintro ⟨rfl, halike⟩
    rw [preimage, preimage, canonical, canonical, sorted_of_alike a ha halike]

/-- The same filter written in another order has the same bytes. -/
theorem preimage_eq_iff_reordered :
    (obj [("filter", obj [("from", str "2025-01-01"), ("page", num (.int 1))]),
        ("kind", null)]).Proper ∧
      preimage "messages" (obj [("filter", obj [("from", str "2025-01-01"),
          ("page", num (.int 1))]), ("kind", null)])
        = preimage "messages" (obj [("kind", null), ("filter", obj [("page", num (.int 1)),
          ("from", str "2025-01-01")])]) := by
  have hproper : (obj [("filter", obj [("from", str "2025-01-01"), ("page", num (.int 1))]),
      ("kind", null)]).Proper :=
    ⟨by decide, ⟨by decide, trivial, trivial, trivial⟩, trivial, trivial⟩
  have hfilter : Alike (obj [("from", str "2025-01-01"), ("page", num (.int 1))])
      (obj [("page", num (.int 1)), ("from", str "2025-01-01")]) :=
    .obj (.cons (.refl _) (.cons (.refl _) .nil)) (.swap _ _ _)
  exact ⟨hproper, (preimage_eq_iff hproper).mpr
    ⟨rfl, .obj (.cons hfilter (.cons (.refl _) .nil)) (.swap _ _ _)⟩⟩

end Key

end QueryCache
