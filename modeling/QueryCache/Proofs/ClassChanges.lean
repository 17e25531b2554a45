import Mathlib.Data.List.Nodup
import QueryCache.Proofs.Answered
import QueryCache.Proofs.Confirmation
/-!
# What a change of a class makes stale

A class that is changed or deleted is declared stale by its id, and by that alone.  The rest is up to
the tags: the answers in which the class stands provide one of that id (`hits_of_concerns`), and the
dashboard and the analytics follow from every class.  An id may come as a number or as a text, in the
write, in the arguments of a read and in the records of an answer; it stands in tags as it is
printed.
-/

namespace QueryCache

namespace Classroom

/-- An answer to a call concerns a class if it lists it, or is that class or its lessons, or is a
summary of all classes. -/
inductive Concerns (id : String) : String → Json → Json → Prop
  | classes {args value record : Json} {items : List Json}
      (hlisted : value = .arr items ∨ value.field? "items" = some (.arr items))
      (hrecord : record ∈ items) (hid : record.field? "id" >>= idText? = some id) :
      Concerns id "getClasses" args value
  | record {args value : Json} (hid : args.field? "id" >>= idText? = some id) :
      Concerns id "getClass" args value
  | lessons {args value : Json} (hid : args.field? "class_id" >>= idText? = some id) :
      Concerns id "getLessons" args value
  | dashboard {args value : Json} : Concerns id "getDashboard" args value
  | analytics {args value : Json} : Concerns id "getAnalytics" args value

variable {id : String} {args value : Json}

/-- No two endpoints have one name. -/
theorem eq_of_name {endpoint other : Endpoint} (h : endpoint ∈ endpoints)
    (hother : other ∈ endpoints) (hname : endpoint.name = other.name) : endpoint = other :=
  List.inj_on_of_nodup_map (by decide : (endpoints.map Endpoint.name).Nodup) h hother hname

/-- What is listed bare or under `items` is what is listed. -/
theorem items?_listed {items : List Json}
    (h : value = .arr items ∨ value.field? "items" = some (.arr items)) :
    (listed value).items? = some items := by
  unfold listed
  rcases h with rfl | hitems
  · rfl
  · rw [hitems]
    rfl

/-- A class that is stale makes the dashboard stale. -/
theorem leads_dashboard (id : String) :
    cascade.Leads (.ofId "Class" id) (.ofKind "Dashboard") := by
  refine .single (List.mem_append_right _ ?_)
  show Tag.ofKind "Dashboard" ∈ cascade.row (.ofKind "Class")
  decide +kernel

/-- A class that is stale makes the analytics stale. -/
theorem leads_analytics (id : String) :
    cascade.Leads (.ofId "Class" id) (.ofKind "Analytics") := by
  refine .single (List.mem_append_right _ ?_)
  show Tag.ofKind "Analytics" ∈ cascade.row (.ofKind "Class")
  decide +kernel

/-- A tag that the id leads to is provided. -/
theorem hits_of_leads {endpoint : Endpoint} {t : Tag}
    (hleads : cascade.Leads (.ofId "Class" id) t) (hprovides : t ∈ endpoint.provides args value) :
    cascade.Hits [.ofId "Class" id] (endpoint.tagsOf args value) := by
  refine ⟨_, List.mem_singleton_self _, t, hleads, t, ?_, t.covers_self⟩
  exact Std.ExtTreeSet.mem_ofList.mpr (List.contains_iff_mem.mpr hprovides)

/-- **The id of a class hits every answer that concerns the class.** -/
theorem hits_of_concerns {endpoint : Endpoint} (hendpoint : endpoint ∈ endpoints)
    (hconcerns : Concerns id endpoint.name args value) :
    cascade.Hits [.ofId "Class" id] (endpoint.tagsOf args value) := by
  generalize hname : endpoint.name = name at hconcerns
  cases hconcerns with
  | @classes _ _ found items hlisted hrecord hid =>
      have hclasses : listing "getClasses" "/classes" "Class" [] ∈ endpoints := by simp [endpoints]
      obtain rfl := eq_of_name hendpoint hclasses hname
      refine hits_of_leads .refl (List.mem_cons_of_mem _ ?_)
      rw [items?_listed hlisted]
      exact List.mem_filterMap.mpr ⟨found, hrecord, by rw [hid]; rfl⟩
  | record hid =>
      have hclass : record "getClass" "/classes" "Class" ∈ endpoints := by simp [endpoints]
      obtain rfl := eq_of_name hendpoint hclass hname
      refine hits_of_leads .refl (List.mem_singleton.mpr ?_)
      rw [argument, hid]
      rfl
  | lessons hid =>
      have hlessons : Classroom.lessons ∈ endpoints := by simp [endpoints]
      obtain rfl := eq_of_name hendpoint hlessons hname
      refine hits_of_leads .refl (List.mem_append_right _ ?_)
      rw [hid]
      exact List.mem_singleton_self _
  | dashboard =>
      have hdashboard : page "getDashboard" "/dashboard" "Dashboard" [] ∈ endpoints := by
        simp [endpoints]
      obtain rfl := eq_of_name hendpoint hdashboard hname
      exact hits_of_leads (leads_dashboard id) (List.mem_singleton_self _)
  | analytics =>
      have hanalytics : Classroom.analytics ∈ endpoints := by simp [endpoints]
      obtain rfl := eq_of_name hendpoint hanalytics hname
      exact hits_of_leads (leads_analytics id) (List.mem_singleton_self _)

end Classroom

namespace Situation

variable {setup : Setup} {h : History} {k : Key} {write : Nat} {u : Undertaking}

/-- What a confirmation declares stale is marked as such. -/
theorem invalidated_confirm (hnamed : setup.WellNamed)
    (hwrite : (after setup h).writes[write]? = some u) {now : Nat} {response : Json}
    (hdeclares : k ∈ (after setup h).declares (.confirm write response)) {e : Entry}
    (hread : (after setup ((now, .confirm write response) :: h)).session.read k = some e) :
    e.invalidated = true := by
  obtain ⟨hsetup, htidy, hknown⟩ := tidy_after hnamed h
  simp only [declares, hwrite] at hdeclares
  split at hdeclares
  · exact absurd hdeclares Std.ExtTreeSet.not_mem_empty
  rename_i hsome
  let s := (after setup h).session.settleWrite u.write response
  have hsettled : s.Known := hknown.leads (Session.leads_settleWrite _ u.write response)
  have hafter : (s.invalidate (u.mutation.stales u.args response)).2.read k = some e := by
    rw [← hread]
    simp only [after, step, hwrite]
    show _ = (Session.confirm _ u.write u.mutation u.args response).read k
    simp only [Session.confirm, if_neg hsome]
    cases u.mutation.announcement <;> rfl
  rcases (Session.read_invalidate hsettled _ k).1 hdeclares with hmarked | hbegun
  · obtain ⟨e', -, rfl⟩ := Option.map_eq_some_iff.mp (hmarked.symm.trans hafter)
    rfl
  · rw [Option.map_map] at hbegun
    obtain ⟨e', -, rfl⟩ := Option.map_eq_some_iff.mp (hbegun.symm.trans hafter)
    rfl

/-- A write that has begun waits under its number. -/
theorem writes_write (p : Situation) (now : Nat) (m : Mutation) (args : Json)
    (edits : List SpeculativeEdit) :
    (p.step now (.write m args edits)).writes[p.session.nextWrite]? =
      some ⟨(p.session.beginWrite edits).1, m, args⟩ :=
  Std.ExtTreeMap.getElem?_insert_self

/-- An entry declared stale is stale at any time. -/
theorem isStale_of_invalidated {p : Situation} {e : Entry} (hread : p.session.read k = some e)
    (hinvalidated : e.invalidated = true) (moment : Nat) :
    p.session.cache.isStale k moment = true := by
  have hcache : p.session.cache.read k = some e := hread
  simp only [Cache.isStale, hcache, Entry.isStale, hinvalidated, Bool.true_or]

/-- **A changed class is stale wherever it stands.**  In any situation of the classroom's client, once
the server has confirmed that a class was changed or deleted, each entry that has been fetched, and
whose last answer concerns the class, is stale.  Which arguments that answer is to is told by the
call that was answered, whose key the entry has. -/
theorem stale_of_class_change (hcatalog : setup.endpoints = Setup.catalog Classroom.endpoints)
    (hcascade : setup.cascade = Classroom.cascade)
    (hwrite : (after setup h).writes[write]? = some u)
    (hmutation : u.mutation = Classroom.updateClass ∨ u.mutation = Classroom.deleteClass)
    {id : String} (hid : u.args.field? "id" >>= Classroom.idText? = some id) (now : Nat)
    (response : Json) {e : Entry}
    (hread : (after setup ((now, .confirm write response) :: h)).session.read k = some e)
    (hfetched : e.fetchedAt.isSome = true) :
    ∃ f value, lastAnswer setup k ((now, .confirm write response) :: h) = some (f, value) ∧
      f.endpoint.keyOf f.args = k ∧ f.endpoint.name = e.endpoint ∧
      (Classroom.Concerns id f.endpoint.name f.args value → ∀ moment,
        (after setup ((now, .confirm write response) :: h)).session.cache.isStale k moment =
          true) := by
  have hnamed := Setup.wellNamed_of_catalog hcatalog
  obtain ⟨f, value, hanswer, hserves, htags⟩ := answer_of_fetched hnamed hread hfetched
  obtain ⟨⟨name, hlists⟩, hkey⟩ := hserves
  have hname : f.endpoint.name = e.endpoint := by
    obtain ⟨endpoint, hown, hcall⟩ :=
      (known_cellAfter hnamed k ((now, .confirm write response) :: h)).entry e hread
    rw [← hnamed e.endpoint endpoint hown]
    exact Key.ofCall_name (hkey.trans hcall.symm)
  refine ⟨f, value, hanswer, hkey, hname, fun hconcerns => ?_⟩
  have hstales : u.mutation.stales u.args response = [.ofId "Class" id] := by
    rcases hmutation with hupdate | hdelete
    · rw [hupdate]
      simp only [Classroom.updateClass, Classroom.argument, hid, Option.getD_some]
    · rw [hdelete]
      simp only [Classroom.deleteClass, Classroom.argument, hid, Option.getD_some]
  have hhits : setup.cascade.Hits (u.mutation.stales u.args response) e.tags := by
    rw [hcascade, hstales, htags]
    exact Classroom.hits_of_concerns (Setup.mem_of_lists hcatalog hlists).1 hconcerns
  -- Before it is confirmed the entry has the same tags, for the confirmation is no answer.
  obtain ⟨before, hbefore, hkept⟩ := read_before hnamed (h := h) rfl hread hfetched
  have hdeclares : k ∈ (after setup h).declares (.confirm write response) :=
    (mem_declares_confirm hnamed hwrite response).mpr ⟨before, hbefore, hkept ▸ hhits⟩
  exact isStale_of_invalidated hread (invalidated_confirm hnamed hwrite hdeclares hread)

/-- The class with the number 1 is deleted, by its id as a text. -/
def deletion : History :=
  [(5, .write Classroom.deleteClass (.ofFields [("id", .str "1")])
      (Classroom.showDeletedClass (.str "1"))),
    (1, .land 0 (.ok (roster "a"))), (0, .query "getClasses" .null)]

/-- The list of classes that was fetched before that is stale. -/
theorem stale_of_class_change_deletion :
    ∃ u e, (after classroom deletion).writes[1]? = some u ∧
      u.mutation = Classroom.deleteClass ∧
      u.args.field? "id" >>= Classroom.idText? = some "1" ∧
      (after classroom ((9, .confirm 1 .null) :: deletion)).session.read Classroom.classesKey =
        some e ∧ e.fetchedAt.isSome = true ∧
      ∀ moment, (after classroom ((9, .confirm 1 .null) :: deletion)).session.cache.isStale
        Classroom.classesKey moment = true := by
  have hfacts : ((after classroom ((9, .confirm 1 .null) :: deletion)).session.read
        Classroom.classesKey).map (fun e => e.fetchedAt) = some (some 1) ∧
      (lastAnswer classroom Classroom.classesKey ((9, .confirm 1 .null) :: deletion)).map
        (fun answer => (answer.1.endpoint.name, answer.2)) = some ("getClasses", roster "a") := by
    decide +kernel
  obtain ⟨hentry, hlast⟩ := hfacts
  obtain ⟨e, hread, hat⟩ := Option.map_eq_some_iff.mp hentry
  have hfetched : e.fetchedAt.isSome = true := by rw [hat]; rfl
  have hid : (Json.ofFields [("id", .str "1")]).field? "id" >>= Classroom.idText? = some "1" := by
    decide +kernel
  have hnumber : (after classroom deletion.tail).session.nextWrite = 1 := by decide +kernel
  have hwrite := writes_write (after classroom deletion.tail) 5 Classroom.deleteClass
    (.ofFields [("id", .str "1")]) (Classroom.showDeletedClass (.str "1"))
  rw [hnumber] at hwrite
  obtain ⟨f, value, hanswer, -, -, hstale⟩ := stale_of_class_change rfl rfl hwrite (Or.inr rfl) hid 9
    .null hread hfetched
  rw [hanswer] at hlast
  obtain ⟨hname, rfl⟩ : f.endpoint.name = "getClasses" ∧ value = roster "a" := by
    simpa using hlast
  refine ⟨_, e, hwrite, rfl, hid, hread, hfetched, hstale ?_⟩
  rw [hname]
  exact .classes (Or.inl rfl) (List.mem_singleton_self _) (by decide +kernel)

end Situation

end QueryCache
