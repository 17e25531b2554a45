import Mathlib.Data.List.DropRight
import Mathlib.Data.List.TakeWhile
import QueryCache.Tag.Basic
/-!
# Tags as they are written

A tag goes into settings and answers as a text, and comes back from it.  Two things can be lost on
the way.  Blanks at the ends of the text are trimmed before it is looked at, whichever part of the
tag they belong to; and the kind ends at the first colon, whichever part that belongs to.  Nothing
else is lost: inner blanks, further colons and empty parts all come back.

What trimming leaves is told by what it takes away (`isCore_iff`), and what reading gives by how the
tag is written (`ofText_eq_iff`).  From these two it follows which tags come back as they were
(`ofText_text`).
-/

namespace QueryCache

namespace Text

/-- The text neither begins nor ends with a blank. -/
def IsBare (s : String) : Prop :=
  (∀ c ∈ s.toList.head?, isBlank c = false) ∧ ∀ c ∈ s.toList.getLast?, isBlank c = false

instance (s : String) : Decidable (IsBare s) :=
  inferInstanceAs (Decidable
    ((∀ c ∈ s.toList.head?, isBlank c = false) ∧ ∀ c ∈ s.toList.getLast?, isBlank c = false))

/-- A text stands within another, with nothing but blanks around it and none at its own ends. -/
structure IsCore (s core : String) : Prop where
  around : ∃ before after, s.toList = before ++ core.toList ++ after ∧
    (∀ c ∈ before, isBlank c = true) ∧ ∀ c ∈ after, isBlank c = true
  bare : IsBare core

section Ends

variable {p : Char → Bool} {before core after : List Char}

/-- What is dropped from the front goes as far as something else begins. -/
theorem dropWhile_front (hbefore : ∀ c ∈ before, p c = true) (hcore : ∀ c ∈ core.head?, p c = false) :
    (before ++ core).dropWhile p = core := by
  rw [List.dropWhile_append_of_pos hbefore]
  cases core with
  | nil => rfl
  | cons c core => exact List.dropWhile_cons_of_neg (by simpa using hcore c rfl)

/-- What stands between blanks is all that trimming leaves, if it neither begins nor ends with
one. -/
theorem trimEnds_around (hbefore : ∀ c ∈ before, p c = true) (hafter : ∀ c ∈ after, p c = true)
    (hhead : ∀ c ∈ core.head?, p c = false) (hlast : ∀ c ∈ core.getLast?, p c = false) :
    trimEnds p (before ++ core ++ after) = core := by
  unfold trimEnds
  by_cases hnone : core = []
  · -- With nothing in between, both ends go when the front is dropped.
    subst hnone
    have hall : (before ++ [] ++ after).dropWhile p = [] := by
      rw [List.dropWhile_eq_nil_iff]
      intro c hc
      rw [List.append_nil] at hc
      exact (List.mem_append.mp hc).elim (hbefore c) (hafter c)
    rw [hall]
    rfl
  · have hfront : (before ++ core ++ after).dropWhile p = core ++ after := by
      rw [List.append_assoc]
      refine dropWhile_front hbefore ?_
      rwa [List.head?_append_of_ne_nil core hnone]
    have hback : (core ++ after).reverse.dropWhile p = core.reverse := by
      rw [List.reverse_append]
      refine dropWhile_front (fun c hc => hafter c (List.mem_reverse.mp hc)) ?_
      rwa [List.head?_reverse]
    rw [hfront, hback, List.reverse_reverse]

/-- What is left of a text once the front is dropped and then the back stands between the two. -/
theorem trimEnds_spec (p : Char → Bool) (l : List Char) :
    (∃ before after, l = before ++ trimEnds p l ++ after ∧ (∀ c ∈ before, p c = true) ∧
      ∀ c ∈ after, p c = true) ∧
    (∀ c ∈ (trimEnds p l).head?, p c = false) ∧ ∀ c ∈ (trimEnds p l).getLast?, p c = false := by
  have htrim : trimEnds p l = (l.dropWhile p).rdropWhile p := rfl
  rw [htrim]
  refine ⟨⟨l.takeWhile p, (l.dropWhile p).rtakeWhile p, ?_, ?_, ?_⟩, ?_, ?_⟩
  · rw [List.append_assoc, List.rdropWhile_append_rtakeWhile, List.takeWhile_append_dropWhile]
  · intro c hc
    exact List.mem_takeWhile_imp hc
  · intro c hc
    exact List.mem_rtakeWhile_imp hc
  · -- What is left begins as the text does without its front.
    intro c hc
    obtain ⟨rest, hrest⟩ := List.rdropWhile_prefix p (l.dropWhile p)
    have hfirst : (l.dropWhile p).head? = some c := by
      rw [← hrest, List.head?_append, Option.mem_def.mp hc]
      rfl
    have hnot := List.head?_dropWhile_not p l
    rwa [hfirst] at hnot
  · intro c hc
    obtain ⟨hne, hlast⟩ := List.mem_getLast?_eq_getLast hc
    have hnot := List.rdropWhile_last_not p (l.dropWhile p) hne
    rw [← hlast] at hnot
    exact Bool.eq_false_iff.mpr hnot

end Ends

/-- **Trimming** takes the blanks around a text, all of them and nothing else. -/
theorem isCore_iff {s core : String} : IsCore s core ↔ trim s = core := by
  constructor
  · rintro ⟨⟨before, after, hs, hbefore, hafter⟩, hhead, hlast⟩
    rw [trim, hs, trimEnds_around hbefore hafter hhead hlast, String.ofList_toList]
  · rintro rfl
    have hcore : (trim s).toList = trimEnds isBlank s.toList := String.toList_ofList
    obtain ⟨haround, hbare⟩ := trimEnds_spec isBlank s.toList
    rw [← hcore] at haround hbare
    exact ⟨haround, hbare⟩

/-- Trimming leaves alone what is bare. -/
theorem trim_eq_self_iff {s : String} : trim s = s ↔ IsBare s := by
  rw [← isCore_iff]
  constructor
  · exact fun h => h.bare
  · exact fun h => ⟨⟨[], [], by simp, by simp, by simp⟩, h⟩

/-- A text is trimmed once and for all. -/
theorem trim_trim (s : String) : trim (trim s) = trim s :=
  trim_eq_self_iff.mpr (isCore_iff.mpr rfl).bare

/-- A text is cut at the first of its marks. -/
theorem cutList_append {c : Char} {before : List Char} (h : c ∉ before) (after : List Char) :
    cutList c (before ++ c :: after) = some (before, after) := by
  induction before with
  | nil => simp [cutList]
  | cons x before ih =>
      obtain ⟨hx, hbefore⟩ : c ≠ x ∧ c ∉ before := by simpa using h
      simp [cutList, Ne.symm hx, ih hbefore]

/-- A text is cut at the first colon. -/
theorem cut_eq_some_iff {s before after : String} :
    cut ':' s = some (before, after) ↔ s = before ++ ":" ++ after ∧ ':' ∉ before.toList := by
  unfold cut
  rw [Option.map_eq_some_iff]
  constructor
  · rintro ⟨⟨b, a⟩, hcut, hparts⟩
    obtain ⟨rfl, rfl⟩ := Prod.mk.inj hparts
    obtain ⟨hs, hnone⟩ := cutList_eq_some hcut
    refine ⟨String.toList_injective ?_, ?_⟩
    · simpa using hs
    · simpa using hnone
  · rintro ⟨rfl, hnone⟩
    refine ⟨(before.toList, after.toList), ?_, by simp⟩
    have hlist : (before ++ ":" ++ after).toList = before.toList ++ ':' :: after.toList := by simp
    rw [hlist, cutList_append hnone]

/-- A text without the mark is not cut, and no other. -/
theorem cut_eq_none_iff {s : String} : cut ':' s = none ↔ ':' ∉ s.toList := by
  rw [cut, Option.map_eq_none_iff, cutList_eq_none]

end Text

namespace Tag

variable {s : String} {t : Tag}

/-- **What is read.**  A text is read as the tag that is written like it, up to the blanks around
it, and whose kind has no colon. -/
theorem ofText_eq_iff : ofText s = t ↔ Text.trim s = t.text ∧ ':' ∉ t.kind.toList := by
  obtain ⟨kind, id⟩ := t
  unfold ofText
  cases hcut : Text.cut ':' (Text.trim s) with
  | none =>
      have hcolon := Text.cut_eq_none_iff.mp hcut
      cases id with
      | none =>
          simp only [ofKind, text, Tag.mk.injEq, and_true]
          exact ⟨fun h => ⟨h, h ▸ hcolon⟩, fun h => h.1⟩
      | some id =>
          simp only [ofKind, text, Tag.mk.injEq, reduceCtorEq, and_false, false_iff, not_and]
          intro h
          rw [h] at hcolon
          simp at hcolon
  | some parts =>
      obtain ⟨front, back⟩ := parts
      obtain ⟨htext, hcolon⟩ := Text.cut_eq_some_iff.mp hcut
      cases id with
      | none =>
          simp only [ofId, text, Tag.mk.injEq, reduceCtorEq, and_false, false_iff, not_and, not_not]
          intro h
          rw [← h, htext]
          simp
      | some id =>
          simp only [ofId, text, Tag.mk.injEq, Option.some.injEq]
          rw [← Text.cut_eq_some_iff, hcut]
          simp

/-- A tag that was read is written as the text was, without the blanks around it. -/
theorem text_ofText (s : String) : (ofText s).text = Text.trim s :=
  (ofText_eq_iff.mp rfl).1.symm

/-- **What comes back.**  A tag that is written comes back from reading exactly if its kind has no
colon and its text no blank at either end. -/
theorem ofText_text : ofText t.text = t ↔ ':' ∉ t.kind.toList ∧ Text.IsBare t.text := by
  rw [ofText_eq_iff, Text.trim_eq_self_iff, and_comm]

/-- **Tags and their texts.**  Whatever text is read, the tag is written as that text without the
blanks around it, and read from this again.  And of all tags, however they were made, exactly those
come back from their own text whose kind has no colon and whose text has no blank at either end. -/
theorem written_and_read :
    (∀ s, (ofText s).text = Text.trim s ∧ Text.IsCore s (ofText s).text) ∧
    (∀ s, ofText (ofText s).text = ofText s) ∧
    ∀ t, ofText t.text = t ↔ ':' ∉ t.kind.toList ∧ Text.IsBare t.text := by
  refine ⟨fun s => ⟨text_ofText s, ?_⟩, fun s => ?_, fun t => ofText_text⟩
  · rw [text_ofText]
    exact Text.isCore_iff.mpr rfl
  · obtain ⟨htext, hcolon⟩ := ofText_eq_iff.mp (rfl : ofText s = ofText s)
    rw [ofText_eq_iff, ← htext, Text.trim_trim]
    exact ⟨rfl, hcolon⟩

/-- A blank within the text comes back, and one at its end does not. -/
example : ofText (ofId "Class" " 1").text = ofId "Class" " 1" ∧
    ofText (ofId "Class" "1 ").text = ofId "Class" "1" := by decide

end Tag

end QueryCache
