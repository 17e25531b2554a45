import Mathlib.Logic.Basic
import QueryCache.Classroom.Summary
import QueryCache.Proofs.Identity
/-!
# What the lesson counts count

Edits and tags take `1` and `"1"` for one id: they go by how an id is written (`same_iff_display`,
`same_iff_tag`), and an edit finds a class by each id that is the same as its own (`hasId_of_read`).
Apart from itself, an id is the same as its other form: a number as its numeral, and a numeral as its
number (`same_iff_forms`).

The lesson counts are made in one pass, which bumps the count of the id that each lesson names.  A pass
adds to the count of an id the lessons that name it in that very form (`getD_foldl_bump`), so a lesson
of the class `"1"` is not counted for the class `1`.  `lesson_counts_by_form` says what is counted, what
is left out, and when nothing is.
-/

namespace QueryCache.Classroom

namespace RecordId

/-- An id that is read is written back as it was. -/
theorem toJson_of_read {v : Json} {r : RecordId} (h : ofJson? v = some r) : r.toJson = v := by
  unfold ofJson? at h
  split at h
  · cases h
    rfl
  · obtain ⟨n, hword, rfl⟩ := Option.map_eq_some_iff.mp h
    unfold word? at hword
    split at hword
    · split at hword
      · cases hword
        rfl
      · cases hword
    · cases hword

theorem isId_toJson (r : RecordId) : r.toJson.IsId := by
  cases r with
  | number n => trivial
  | text s => trivial

/-- Edits and tags write an id as it is displayed. -/
theorem written_toJson (r : RecordId) : r.toJson.written = r.display := by
  cases r with
  | number n => rfl
  | text s => rfl

/-- In a tag an id is written as it is displayed. -/
theorem idText?_toJson (r : RecordId) : idText? r.toJson = some r.display := by
  cases r with
  | number n => rfl
  | text s => rfl

/-- Whether edits take two ids for one. -/
def same (r s : RecordId) : Bool := sameId r.toJson s.toJson

/-- Edits take two ids for one if they are displayed alike. -/
theorem same_iff_display {r s : RecordId} : r.same s = true ↔ r.display = s.display := by
  rw [same, sameId_iff r.isId_toJson s.isId_toJson, written_toJson, written_toJson]

/-- Tags tell apart what edits do. -/
theorem same_iff_tag {r s : RecordId} :
    r.same s = true ↔ idText? r.toJson = idText? s.toJson := by
  rw [same_iff_display, idText?_toJson, idText?_toJson, Option.some_inj]

/-- Whether one id is a number and the other its numeral. -/
def otherForm : RecordId → RecordId → Bool
  | number n, text s | text s, number n => s == (number n).display
  | _, _ => false

/-- **Two ids mean one record if they are equal, or a number and its numeral.** -/
theorem same_iff_forms {r s : RecordId} :
    r.same s = true ↔ r = s ∨ r.otherForm s = true := by
  rw [same_iff_display]
  match r, s with
  | number m, number n =>
      simp only [otherForm, Bool.false_eq_true, or_false]
      exact ⟨fun h => congrArg number (Json.intText_inj (String.ofList_injective h)),
        congrArg display⟩
  | text t, text u =>
      simp only [otherForm, Bool.false_eq_true, or_false]
      exact ⟨congrArg text, congrArg display⟩
  | number n, text u =>
      simp only [otherForm, beq_iff_eq, reduceCtorEq, false_or]
      exact eq_comm
  | text t, number n =>
      simp only [otherForm, beq_iff_eq, reduceCtorEq, false_or]
      exact Iff.rfl

theorem otherForm_self (r : RecordId) : r.otherForm r = false := by
  cases r with
  | number n => rfl
  | text s => rfl

end RecordId

/-- An edit finds a class in the list it was read from by each id that is the same. -/
theorem Class.hasId_of_read {record : Json} {c : Class} (hread : Class.ofJson? record = some c)
    (hobject : record.isObject = true) (id : RecordId) :
    hasId "id" id.toJson record = c.id.same id := by
  match record, hobject with
  | .obj fields, _ =>
      unfold Class.ofJson? at hread
      obtain ⟨_, _, hread⟩ := Option.bind_eq_some_iff.mp hread
      obtain ⟨own, hown, hread⟩ := Option.bind_eq_some_iff.mp hread
      obtain ⟨_, _, hread⟩ := Option.bind_eq_some_iff.mp hread
      obtain ⟨_, _, hread⟩ := Option.bind_eq_some_iff.mp hread
      obtain ⟨_, _, hread⟩ := Option.bind_eq_some_iff.mp hread
      obtain rfl := Option.some.inj hread
      obtain ⟨v, hfield, hown⟩ := Option.bind_eq_some_iff.mp hown
      have hfound : (Json.obj fields).field? "id" = some v := hfield
      unfold hasId
      rw [hfound, ← RecordId.toJson_of_read hown]
      rfl

/-! ## The pass over the lessons -/

/-- A bump adds one to the count of the id named, and nothing to the others. -/
theorem getD_bump (tally : Std.HashMap RecordId Nat) (named id : RecordId) :
    (bump tally named).getD id 0 = tally.getD id 0 + if named = id then 1 else 0 := by
  unfold bump
  rw [Std.HashMap.getD_insert]
  by_cases h : named = id
  · subst h
    rw [if_pos (beq_self_eq_true named), if_pos rfl]
  · rw [if_neg (by simpa using h), if_neg h, Nat.add_zero]

/-- A pass adds to the count of an id the lessons that name it in that very form. -/
theorem getD_foldl_bump (lessons : List Lesson) (tally : Std.HashMap RecordId Nat) (id : RecordId) :
    (lessons.foldl (fun tally l => bump tally l.classId) tally).getD id 0 =
      tally.getD id 0 + lessons.countP (fun l => l.classId = id) := by
  induction lessons generalizing tally with
  | nil => rfl
  | cons l rest ih =>
      rw [List.foldl_cons, ih, getD_bump, List.countP_cons]
      simp only [decide_eq_true_eq]
      omega

/-- The tally of an id counts the lessons that name it in that very form. -/
theorem getD_lessonTally (lessons : List Lesson) (id : RecordId) :
    (lessonTally lessons).getD id 0 = lessons.countP (fun l => l.classId = id) := by
  rw [lessonTally, getD_foldl_bump, Std.HashMap.getD_empty, Nat.zero_add]

/-! ## The counts -/

/-- Whether the lesson is one of the class, as edits and tags have it. -/
def Lesson.isOf (c : Class) (l : Lesson) : Bool := c.id.same l.classId

/-- Whether the lesson names the class in the form of the class's own id. -/
def Lesson.names (c : Class) (l : Lesson) : Bool := l.classId = c.id

/-- Whether the lesson names the class in the form its own id does not have. -/
def Lesson.namesOtherwise (c : Class) (l : Lesson) : Bool := c.id.otherForm l.classId

/-- A lesson of a class names it in one form or the other. -/
theorem Lesson.isOf_iff {c : Class} {l : Lesson} :
    l.isOf c = true ↔ l.names c = true ∨ l.namesOtherwise c = true := by
  rw [isOf, RecordId.same_iff_forms, names, decide_eq_true_eq, namesOtherwise, eq_comm]

/-- No lesson names a class in both forms. -/
theorem Lesson.namesOtherwise_of_names {c : Class} {l : Lesson} (h : l.names c = true) :
    l.namesOtherwise c = false := by
  have hid : l.classId = c.id := of_decide_eq_true h
  rw [namesOtherwise, hid, RecordId.otherForm_self]

/-- Each lesson of a class names it in one of two forms. -/
theorem countP_isOf (c : Class) (lessons : List Lesson) :
    lessons.countP (Lesson.isOf c) =
      lessons.countP (Lesson.names c) + lessons.countP (Lesson.namesOtherwise c) := by
  induction lessons with
  | nil => rfl
  | cons l rest ih =>
      rw [List.countP_cons, List.countP_cons, List.countP_cons, ih]
      simp only [Lesson.isOf_iff]
      cases hnames : l.names c with
      | true =>
          rw [Lesson.namesOtherwise_of_names hnames]
          simp only [true_or, if_true, Bool.false_eq_true, if_false]
          omega
      | false =>
          simp only [Bool.false_eq_true, false_or, if_false]
          omega

/-- The counts agree as long as no lesson names the class in the other form. -/
theorem countP_names_eq_iff (c : Class) (lessons : List Lesson) :
    lessons.countP (Lesson.names c) = lessons.countP (Lesson.isOf c) ↔
      ∀ l ∈ lessons, l.namesOtherwise c = false := by
  have hnone : lessons.countP (Lesson.namesOtherwise c) = 0 ↔
      ∀ l ∈ lessons, l.namesOtherwise c = false := by
    simp only [List.countP_eq_zero, Bool.not_eq_true]
  have hsum := countP_isOf c lessons
  rw [← hnone]
  omega

/-- From answers that list classes and lessons come the classes in order, each with the lessons that
name its own id. -/
theorem classesWithLessonCounts_eq {a b : Json} {classes : List Class} {lessons : List Lesson}
    (hclasses : readList Class.ofJson? a = some classes)
    (hlessons : readList Lesson.ofJson? b = some lessons) (further : List Json) :
    classesWithLessonCounts (a :: b :: further) =
      classes.map fun c => ⟨c, lessons.countP (Lesson.names c)⟩ := by
  have hfirst : recordsAt Class.ofJson? (a :: b :: further) 0 = classes := by
    simp [recordsAt, hclasses]
  have hsecond : recordsAt Lesson.ofJson? (a :: b :: further) 1 = lessons := by
    simp [recordsAt, hlessons]
  unfold classesWithLessonCounts overviews
  rw [hfirst, hsecond]
  refine List.map_congr_left fun c _ => ?_
  rw [getD_lessonTally]
  rfl

/-- **The lesson counts go by the form of an id.**  From answers that list classes and lessons, bare or
under `items`, come the classes in order, each with how many lessons name it in the form of its own id.
Of its lessons, as edits and tags have them, this leaves out those that name it in the other form, and no
others.  So the counts are those of edits and tags exactly if no lesson names a listed class in the other
form. -/
theorem lesson_counts_by_form {a b : Json} {classes : List Class} {lessons : List Lesson}
    (hclasses : readList Class.ofJson? a = some classes)
    (hlessons : readList Lesson.ofJson? b = some lessons) (further : List Json) :
    classesWithLessonCounts (a :: b :: further) =
      classes.map (fun c => ⟨c, lessons.countP (Lesson.names c)⟩) ∧
    (∀ c l, Lesson.isOf c l = true ↔ idText? c.id.toJson = idText? l.classId.toJson) ∧
    (∀ c ∈ classes, lessons.countP (Lesson.isOf c) =
      lessons.countP (Lesson.names c) + lessons.countP (Lesson.namesOtherwise c)) ∧
    (classesWithLessonCounts (a :: b :: further) =
        classes.map (fun c => ⟨c, lessons.countP (Lesson.isOf c)⟩) ↔
      ∀ c ∈ classes, ∀ l ∈ lessons, l.namesOtherwise c = false) := by
  have hcounts := classesWithLessonCounts_eq hclasses hlessons further
  refine ⟨hcounts, fun c l => RecordId.same_iff_tag, fun c _ => countP_isOf c lessons, ?_⟩
  rw [hcounts, List.map_inj_left]
  refine forall₂_congr fun c _ => ?_
  rw [ClassOverview.mk.injEq, eq_self, true_and]
  exact countP_names_eq_iff c lessons

/-- A numbered class and one that the server has not numbered yet. -/
def listedClasses : Json :=
  .obj [("items", .arr [.obj [("id", .num (.int 1)), ("name", .str "Algebra")],
    .obj [("id", .str "temp-1"), ("name", .str "Biology")]])]

/-- Two lessons of the first class, in both forms, and one of the other. -/
def listedLessons : Json :=
  .arr [.obj [("class_id", .num (.int 1)), ("id", .num (.int 10)), ("title", .str "Equations")],
    .obj [("class_id", .str "1"), ("id", .num (.int 11)), ("title", .str "Graphs")],
    .obj [("class_id", .str "temp-1"), ("id", .num (.int 12)), ("title", .str "Cells")]]

/-- The second lesson is one of the first class, and is not counted. -/
theorem lesson_counts_by_form_numeral :
    let algebra : Class := ⟨.number 1, "Algebra", none, none⟩
    let biology : Class := ⟨.text "temp-1", "Biology", none, none⟩
    let lessons : List Lesson := [⟨.number 10, .number 1, "Equations"⟩,
      ⟨.number 11, .text "1", "Graphs"⟩, ⟨.number 12, .text "temp-1", "Cells"⟩]
    readList Class.ofJson? listedClasses = some [algebra, biology] ∧
    readList Lesson.ofJson? listedLessons = some lessons ∧
    classesWithLessonCounts [listedClasses, listedLessons] = [⟨algebra, 1⟩, ⟨biology, 1⟩] ∧
    lessons.countP (Lesson.isOf algebra) = 2 ∧ lessons.countP (Lesson.isOf biology) = 1 := by
  intro algebra biology lessons
  have hclasses : readList Class.ofJson? listedClasses = some [algebra, biology] := by decide
  have hlessons : readList Lesson.ofJson? listedLessons = some lessons := by decide
  have hcounts := (lesson_counts_by_form hclasses hlessons []).1
  exact ⟨hclasses, hlessons, hcounts.trans (by decide), by decide, by decide⟩

end QueryCache.Classroom
