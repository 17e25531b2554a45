import Mathlib.Data.List.DropRight
import Mathlib.Data.List.TakeWhile
import QueryCache.Web.Url

/-!
# Folders

Where a path leads does not depend on where it is followed, except that it ends at the top: it is a
trail of some steps up and then some segments down (`Trail.goneFrom_walk`).  Which of these trails
end below the place they set out from is told from the trail (`Trail.EndsBelow`), and from the texts
of both paths just as well (`placeText_prefix_iff`).

An address that ends with a slash, and has neither a query nor a fragment, is that of a folder
(`isFolder_read`).  Whatever of it each step of the reader takes away, what is left is an end of the
text and ends with the slash too.
-/

namespace QueryCache.Web

/-- What two steps bring, if both succeed. -/
theorem exists_of_bind_eq_ok {ε α β : Type} {x : Except ε α} {f : α → Except ε β} {b : β}
    (h : x >>= f = .ok b) : ∃ a, x = .ok a ∧ f a = .ok b := by
  cases x with
  | error e => cases h
  | ok a => exact ⟨a, rfl, h⟩

namespace Url

/-! ## Trails -/

/-- Where a path leads from wherever it is followed: some steps up, and then down along
segments. -/
structure Trail where
  up : Nat
  down : List (List Char)
deriving DecidableEq, Repr

namespace Trail

/-- The place it leads to.  At the top of the tree, steps up have no effect. -/
def goneFrom (place : List (List Char)) (t : Trail) : List (List Char) :=
  place.take (place.length - t.up) ++ t.down

/-- One step back: off what it has gone down, or else further up. -/
def back (t : Trail) : Trail :=
  match t.down with
  | [] => ⟨t.up + 1, []⟩
  | down => ⟨t.up, down.dropLast⟩

def on (t : Trail) (segment : List Char) : Trail := ⟨t.up, t.down ++ [segment]⟩

/-- Goes on along a segment that others follow. -/
def pass (t : Trail) (segment : List Char) : Trail :=
  if isStepBack segment then t.back else if isStay segment then t else t.on segment

/-- Goes on along the last segment. -/
def finish (t : Trail) (last : List Char) : Trail :=
  if isStepBack last then t.back.on [] else if isStay last then t.on [] else t.on last

/-- Goes on along segments, as `Url.walk` does. -/
def walk (t : Trail) : List (List Char) → Trail
  | [] => t
  | [last] => t.finish last
  | segment :: rest => walk (t.pass segment) rest

/-- Whether it ends below the place it sets out from: the segments above which it has stepped
are gone down again by their names, and there is more. -/
def EndsBelow (place : List (List Char)) (t : Trail) : Prop :=
  ∃ rest, rest ≠ [] ∧ t.down = place.drop (place.length - t.up) ++ rest

variable (place : List (List Char)) (t : Trail)

theorem goneFrom_start : goneFrom place ⟨0, []⟩ = place := by simp [goneFrom]

/-- One segment further on is one segment further down. -/
@[simp] theorem goneFrom_on (segment : List Char) :
    (t.on segment).goneFrom place = t.goneFrom place ++ [segment] := by
  simp [goneFrom, on]

/-- One step back is one step up from where the trail has led. -/
@[simp] theorem goneFrom_back : t.back.goneFrom place = (t.goneFrom place).dropLast := by
  obtain ⟨up, down⟩ := t
  cases down with
  | nil =>
      -- Nothing has been gone down, so a segment of the place itself is left.
      have hshorter : (place.take (place.length - up)).length - 1 = place.length - (up + 1) := by
        rw [List.length_take]
        omega
      simp only [back, goneFrom, List.append_nil, List.dropLast_eq_take, hshorter,
        List.take_take]
      congr 1
      omega
  | cons first down => simp [back, goneFrom, List.dropLast_append_of_ne_nil]

/-- A walk is the same from every place. -/
theorem goneFrom_walk (segments : List (List Char)) (t : Trail) :
    (t.walk segments).goneFrom place = Url.walk (t.goneFrom place) segments := by
  fun_induction walk t segments with
  | case1 t => rfl
  | case2 t last =>
      simp only [finish, Url.walk]
      split_ifs <;> simp
  | case3 t segment rest hrest ih =>
      rw [ih, Url.walk.eq_3 _ _ _ hrest, pass]
      split_ifs <;> simp

/-- The last segment always leads on. -/
theorem walk_down_ne_nil (segments : List (List Char)) (t : Trail) (h : segments ≠ []) :
    (t.walk segments).down ≠ [] := by
  fun_induction walk t segments with
  | case1 t => exact absurd rfl h
  | case2 t last =>
      unfold finish
      split_ifs <;> simp [on]
  | case3 t segment rest hrest ih => exact ih hrest

/-- A trail goes further up by steps back alone. -/
theorem pass_up {segment : List Char} (h : isStepBack segment = false) :
    (t.pass segment).up = t.up := by
  unfold pass
  split_ifs with hback
  · exact absurd hback (by simp [h])
  · rfl
  · rfl

/-- Without steps back a trail never leaves what it sets out from. -/
theorem walk_up (segments : List (List Char)) (t : Trail)
    (h : ∀ segment ∈ segments, isStepBack segment = false) : (t.walk segments).up = t.up := by
  fun_induction walk t segments with
  | case1 t => rfl
  | case2 t last =>
      unfold finish
      split_ifs with hback
      · exact absurd hback (by simp [h last])
      · rfl
      · rfl
  | case3 t segment rest hrest ih =>
      rw [ih fun s hs => h s (List.mem_cons_of_mem segment hs), pass_up t (h segment (by simp))]

/-- Who never leaves a place ends below it. -/
theorem endsBelow_of_up_eq_zero {t : Trail} (hup : t.up = 0) (hdown : t.down ≠ []) :
    t.EndsBelow place :=
  ⟨t.down, hdown, by simp [hup]⟩

/-- A trail that has gone down ends below the top. -/
theorem goneFrom_ne_nil {t : Trail} (h : t.down ≠ []) : t.goneFrom place ≠ [] := by
  simp [goneFrom, h]

/-- What ends below a place is that place with more segments. -/
theorem endsBelow_iff :
    t.EndsBelow place ↔ ∃ rest, rest ≠ [] ∧ t.goneFrom place = place ++ rest := by
  refine exists_congr fun rest => and_congr_right fun _ => ?_
  conv_rhs => rhs; rw [← List.take_append_drop (place.length - t.up) place]
  rw [goneFrom, List.append_assoc, List.append_cancel_left_eq]

end Trail

/-! ## The text of a path -/

/-- Segments that slashes separate, with none inside. -/
def AreParts (place : List (List Char)) : Prop := ∀ part ∈ place, '/' ∉ part

/-- The text of a place. -/
def placeText (place : List (List Char)) : List Char := place.flatMap fun part => '/' :: part

/-- The text of a path is that of its segments. -/
theorem pathText_segments {u : Url} {place : List (List Char)} (h : u.path = .segments place) :
    u.pathText = placeText place := by
  simp [pathText, h, placeText]

/-- Where a part ends is told from the text, because a slash follows. -/
theorem part_prefix_iff {part other s t : List Char} (hpart : '/' ∉ part) (hother : '/' ∉ other)
    (ht : ∀ c ∈ t.head?, c = '/') :
    part ++ '/' :: s <+: other ++ t ↔ part = other ∧ '/' :: s <+: t := by
  induction part generalizing other with
  | nil =>
      cases other with
      | nil => simp
      | cons c other =>
          have hc : '/' ≠ c := fun h => hother (h ▸ List.mem_cons_self)
          simp [List.cons_prefix_cons, hc]
  | cons c part ih =>
      rw [List.mem_cons, not_or] at hpart
      cases other with
      | nil =>
          cases t with
          | nil => simp
          | cons c' t =>
              have hc' : c' = '/' := ht c' rfl
              have hc : c ≠ '/' := fun h => hpart.1 h.symm
              simp [List.cons_prefix_cons, hc', hc]
      | cons c' other =>
          rw [List.mem_cons, not_or] at hother
          simp only [List.cons_append, List.cons_prefix_cons, ih hpart.2 hother.2, List.cons.injEq,
            and_assoc]

/-- The text of a place begins with a slash, if with anything. -/
theorem placeText_head (place : List (List Char)) : ∀ c ∈ (placeText place).head?, c = '/' := by
  cases place <;> simp [placeText]

/-- The text of a place with a slash at its end begins the text of what lies below, and of nothing
else. -/
theorem placeText_prefix_iff {place other : List (List Char)} (hplace : AreParts place)
    (hother : AreParts other) :
    placeText (place ++ [[]]) <+: placeText other ↔ ∃ rest, rest ≠ [] ∧ other = place ++ rest := by
  induction place generalizing other with
  | nil =>
      cases other with
      | nil => simp [placeText]
      | cons part other => simp [placeText]
  | cons part place ih =>
      cases other with
      | nil => simp [placeText]
      | cons part' other =>
          -- More follows the first part in the folder's text, and it begins with a slash.
          have htail : ∃ s, placeText (place ++ [[]]) = '/' :: s := by
            cases place <;> exact ⟨_, rfl⟩
          obtain ⟨s, hs⟩ := htail
          have hcons : ∀ p ps, placeText (p :: ps) = '/' :: (p ++ placeText ps) := fun _ _ => rfl
          rw [AreParts, List.forall_mem_cons] at hplace hother
          rw [List.cons_append, hcons, hcons, List.cons_prefix_cons, hs,
            part_prefix_iff hplace.1 hother.1 (placeText_head other), ← hs, ih hplace.2 hother.2]
          simp only [true_and, List.cons_append, List.cons.injEq]
          constructor
          · rintro ⟨rfl, rest, hrest, rfl⟩
            exact ⟨rest, hrest, rfl, rfl⟩
          · rintro ⟨rest, hrest, rfl, rfl⟩
            exact ⟨rfl, rest, hrest, rfl⟩

/-! ## Segments -/

/-- Splitting gives at least one segment. -/
theorem splitSegments_ne_nil (special : Bool) (cs : List Char) : splitSegments special cs ≠ [] := by
  fun_cases splitSegments special cs <;> simp [*]

/-- The segments of a text have no slash inside. -/
theorem areParts_splitSegments (special : Bool) (cs : List Char) :
    AreParts (splitSegments special cs) := by
  fun_induction splitSegments special cs with
  | case1 => simp [AreParts]
  | case2 c rest hc ih => exact List.forall_mem_cons.2 ⟨List.not_mem_nil, ih⟩
  | case3 c rest hc part parts hrest ih =>
      rw [hrest, AreParts, List.forall_mem_cons] at ih
      have hslash : '/' ≠ c := by
        rintro rfl
        exact hc rfl
      exact List.forall_mem_cons.2 ⟨by simp [hslash, ih.1], ih.2⟩
  | case4 c rest hc hrest => exact absurd hrest (splitSegments_ne_nil special rest)

/-- After a slash at the very end an empty segment follows. -/
theorem splitSegments_concat_slash (special : Bool) (cs : List Char) :
    splitSegments special (cs ++ ['/']) = splitSegments special cs ++ [[]] := by
  fun_induction splitSegments special cs with
  | case1 => rfl
  | case2 c rest hc ih => simp [splitSegments, hc, ih]
  | case3 c rest hc part parts hrest ih =>
      rw [hrest] at ih
      simp [splitSegments, hc, ih]
  | case4 c rest hc hrest => exact absurd hrest (splitSegments_ne_nil special rest)

/-- Escapes are percent signs and digits. -/
theorem slash_notMem_escape {cs : List Char} (isEscaped : Char → Bool) (h : '/' ∉ cs) :
    '/' ∉ escape isEscaped cs := by
  have hhex : ∀ n < 16, '/' ≠ Text.upperHex n := by decide
  have hbyte : ∀ b : UInt8, '/' ∉ escapeByte b := by
    intro b
    have hb : b.toNat < 256 := b.toNat_lt
    simp [escapeByte, hhex _ (show b.toNat / 16 < 16 by omega), hhex _ (Nat.mod_lt b.toNat _)]
  rw [escape, List.mem_flatMap]
  rintro ⟨c, hc, hslash⟩
  unfold escapeChar at hslash
  split at hslash
  · obtain ⟨b, -, hb⟩ := List.mem_flatMap.1 hslash
    exact hbyte b hb
  · exact h (List.mem_singleton.1 hslash ▸ hc)

/-- The segments of a path text, up to where the path ends. -/
def segmentsOf (special : Bool) (cs : List Char) : List (List Char) :=
  (splitSegments special (cs.takeWhile fun c => !endsPath c)).map (escape isEscapedInPath)

/-- A path text has at least one segment. -/
theorem segmentsOf_ne_nil (special : Bool) (cs : List Char) : segmentsOf special cs ≠ [] := by
  simp [segmentsOf, splitSegments_ne_nil]

/-- The segments of a path text have no slash inside. -/
theorem areParts_segmentsOf (special : Bool) (cs : List Char) :
    AreParts (segmentsOf special cs) := by
  intro part hpart
  obtain ⟨part, hsplit, rfl⟩ := List.mem_map.1 hpart
  exact slash_notMem_escape _ (areParts_splitSegments special _ part hsplit)

theorem AreParts.append {place other : List (List Char)} (hplace : AreParts place)
    (hother : AreParts other) : AreParts (place ++ other) :=
  List.forall_mem_append.2 ⟨hplace, hother⟩

theorem AreParts.dropLast {place : List (List Char)} (h : AreParts place) :
    AreParts place.dropLast :=
  fun part hpart => h part (List.dropLast_subset place hpart)

/-- Segments are only taken over or left out. -/
theorem areParts_walk {place segments : List (List Char)} (hplace : AreParts place)
    (hsegments : AreParts segments) : AreParts (walk place segments) := by
  have hempty : AreParts [[]] := by simp [AreParts]
  fun_induction walk place segments with
  | case1 => exact hplace
  | case2 => exact hplace.dropLast.append hempty
  | case3 => exact hplace.append hempty
  | case4 => exact hplace.append hsegments
  | case5 place segment rest hrest ih =>
      obtain ⟨hsegment, hafter⟩ := List.forall_mem_cons.1 hsegments
      refine ih ?_ hafter
      split_ifs
      · exact hplace.dropLast
      · exact hplace
      · exact hplace.append (List.forall_mem_singleton.2 hsegment)

/-- A slash at the end of the path is one at the end of where it leads. -/
theorem walk_concat_nil (place segments : List (List Char)) :
    ∃ above, walk place (segments ++ [[]]) = above ++ [[]] := by
  induction segments generalizing place with
  | nil => exact ⟨place, rfl⟩
  | cons segment rest ih =>
      rw [List.cons_append, walk]
      · exact ih _
      · simp

/-- A trail of such segments leads from such a place to one. -/
theorem Trail.areParts_goneFrom {place segments : List (List Char)} (hplace : AreParts place)
    (hsegments : AreParts segments) : AreParts ((walk ⟨0, []⟩ segments).goneFrom place) := by
  rw [goneFrom_walk, goneFrom_start]
  exact areParts_walk hplace hsegments

theorem walkText_eq (special : Bool) (place : List (List Char)) (cs : List Char) :
    walkText special place cs = walk place (segmentsOf special cs) := rfl

/-! ## Folders -/

/-- A text that stays within a path and ends with a slash, if with anything. -/
structure IsFolderText (cs : List Char) : Prop where
  ends : cs = [] ∨ ∃ before, cs = before ++ ['/']
  within : ∀ c ∈ cs, endsPath c = false

/-- An end of a folder's text is one, too. -/
theorem IsFolderText.of_suffix {cs rest : List Char} (h : IsFolderText cs) (hrest : rest <:+ cs) :
    IsFolderText rest := by
  refine ⟨?_, fun c hc => h.within c (hrest.subset hc)⟩
  obtain rfl | ⟨before, rfl⟩ := h.ends
  · exact .inl (List.suffix_nil.1 hrest)
  · obtain rfl | ⟨t, rfl, -⟩ := List.suffix_concat_iff.1 hrest
    · exact .inl rfl
    · exact .inr ⟨t, rfl⟩

/-- A place whose text ends with a slash, if with anything. -/
structure IsFolder (place : List (List Char)) : Prop where
  ends : place = [] ∨ ∃ above, place = above ++ [[]]
  parts : AreParts place

theorem IsFolder.nil : IsFolder [] := ⟨.inl rfl, by simp [AreParts]⟩

/-- A path text begins with that of a folder just if it is the text of something inside. -/
theorem IsFolder.placeText_prefix_iff {place other : List (List Char)} (h : IsFolder place)
    (hother : AreParts other) (hne : other ≠ []) :
    placeText place <+: placeText other ↔ ∃ rest, rest ≠ [] ∧ other = place.dropLast ++ rest := by
  obtain rfl | ⟨above, rfl⟩ := h.ends
  · simp [placeText, hne]
  · rw [List.dropLast_concat]
    exact Url.placeText_prefix_iff (List.forall_mem_append.1 h.parts).1 hother

/-! ## Reading the address of a folder -/

/-- The text of a folder leads to a folder. -/
theorem isFolder_walkText (special : Bool) {place : List (List Char)} {cs : List Char}
    (hplace : AreParts place) (h : IsFolderText cs) : IsFolder (walkText special place cs) := by
  refine ⟨.inr ?_, areParts_walk hplace (areParts_segmentsOf special cs)⟩
  have hall : cs.takeWhile (fun c => !endsPath c) = cs :=
    List.takeWhile_eq_self_iff.2 fun c hc => by simp [h.within c hc]
  rw [walkText_eq, segmentsOf, hall]
  obtain rfl | ⟨before, rfl⟩ := h.ends
  · exact walk_concat_nil place []
  · rw [splitSegments_concat_slash, List.map_append]
    exact walk_concat_nil place _

/-- The text of a folder leads from the root to a folder. -/
theorem isFolder_walkFromRoot (special : Bool) {cs : List Char} (h : IsFolderText cs) :
    IsFolder (walkFromRoot special cs) := by
  have hroot : AreParts [] := IsFolder.nil.parts
  fun_cases walkFromRoot special cs with
  | case1 => exact ⟨.inr ⟨[], rfl⟩, by simp [AreParts]⟩
  | case2 => exact IsFolder.nil
  | case3 c rest hc => exact isFolder_walkText special hroot (h.of_suffix (List.suffix_cons c rest))
  | case4 => exact IsFolder.nil
  | case5 => exact isFolder_walkText special hroot h

/-- The host and what follows it make up the text. -/
theorem spanHost_append (inBrackets : Bool) (cs : List Char) :
    (spanHost inBrackets cs).1 ++ (spanHost inBrackets cs).2 = cs := by
  fun_induction spanHost inBrackets cs <;> simp_all

/-- Cutting at the last of a character leaves an end of the text. -/
theorem cutLast_suffix {c : Char} {cs before after : List Char}
    (h : cutLast c cs = some (before, after)) : after <:+ cs := by
  have hend : (cs.reverse.takeWhile (· != c)).reverse <:+ cs := by
    have hfirst := List.reverse_suffix.2 (List.takeWhile_prefix (l := cs.reverse) (· != c))
    rwa [List.reverse_reverse] at hfirst
  unfold cutLast at h
  split at h
  · cases h
  · cases h
    exact hend

/-- Reading a port leaves an end of the text. -/
theorem readPort_suffix {scheme : String} {cs left : List Char} {port : Option Nat}
    (h : readPort scheme cs = .ok (port, left)) : left <:+ cs := by
  have hdigits := List.dropWhile_suffix (l := cs) Char.isDigit
  simp only [readPort] at h
  split_ifs at h
  all_goals
    split at h
    · cases h
      exact List.nil_suffix
    · next rest hrest =>
        cases h
        rwa [hrest] at hdigits
    · cases h

/-- Reading an authority leaves an end of the text. -/
theorem readAuthority_suffix {scheme : String} {cs rest : List Char} {authority : Option Authority}
    (h : readAuthority scheme cs = .ok (authority, rest)) : rest <:+ cs := by
  simp only [readAuthority] at h
  generalize hends : (fun c => !endsAuthority (isSpecial scheme) c) = ends at h
  generalize hcut : (cutLast '@' (cs.takeWhile ends)).getD ([], cs.takeWhile ends) = cut at h
  have hplace : cut.2 <:+ cs.takeWhile ends := by
    subst hcut
    cases hlast : cutLast '@' (cs.takeWhile ends) with
    | none => exact List.suffix_refl _
    | some parts => exact cutLast_suffix hlast
  have hport : (spanHost false cut.2).2.drop 1 <:+ cut.2 :=
    (List.drop_suffix 1 _).trans ⟨_, spanHost_append false cut.2⟩
  generalize spanHost false cut.2 = span at h hport
  -- What the port leaves stands directly before the rest, so both together are an end of the text.
  have hleft : ∃ port left, readPort scheme (span.2.drop 1) = .ok (port, left) ∧
      rest = left ++ cs.dropWhile ends := by
    split at h
    · cases h
    · split at h
      all_goals
        obtain ⟨host, -, h⟩ := exists_of_bind_eq_ok h
        obtain ⟨⟨port, left⟩, hread, h⟩ := exists_of_bind_eq_ok h
        cases h
        exact ⟨port, left, hread, rfl⟩
  obtain ⟨port, left, hread, rfl⟩ := hleft
  obtain ⟨before, hbefore⟩ := ((readPort_suffix hread).trans hport).trans hplace
  exact ⟨before, by rw [← List.append_assoc, hbefore, List.takeWhile_append_dropWhile]⟩

/-- Reading the host of a file address leaves an end of the text. -/
theorem readFileHost_suffix {cs rest : List Char} {authority : Option Authority}
    (h : readFileHost cs = .ok (authority, rest)) : rest <:+ cs := by
  have hrest := List.dropWhile_suffix (l := cs) fun c => !endsAuthority true c
  simp only [readFileHost] at h
  split_ifs at h
  · cases h
    exact List.suffix_refl cs
  · cases h
    exact hrest
  · obtain ⟨host, -, h⟩ := exists_of_bind_eq_ok h
    split at h
    all_goals
      cases h
      exact hrest

/-- A place that is read from the text of a folder is one. -/
theorem isFolder_readPlace {scheme : String} {cs : List Char} {u : Url} (hcs : IsFolderText cs)
    (h : readPlace scheme cs = .ok u) : IsFolder u.place := by
  have hrest : ∃ rest, rest <:+ cs ∧ u.path = .segments (walkFromRoot (isSpecial scheme) rest) := by
    simp only [readPlace] at h
    split_ifs at h
    all_goals
      obtain ⟨⟨authority, rest⟩, hread, h⟩ := exists_of_bind_eq_ok h
      cases h
    · exact ⟨rest, readFileHost_suffix hread, rfl⟩
    · exact ⟨rest, readAuthority_suffix hread, rfl⟩
  obtain ⟨rest, hsuffix, hpath⟩ := hrest
  simpa [place, hpath] using isFolder_walkFromRoot _ (hcs.of_suffix hsuffix)

/-- What the text of a folder leads to from a folder is one. -/
theorem isFolder_follow {base u : Url} {cs : List Char} (hbase : IsFolder base.place)
    (hcs : IsFolderText cs) (h : base.follow cs = .ok u) : IsFolder u.place := by
  have hroot := IsFolder.nil.parts
  simp only [follow] at h
  split at h
  · cases h
    exact hbase
  · cases h
    exact hbase
  · cases h
    exact hbase
  · exact isFolder_readPlace (hcs.of_suffix ⟨['/', '/'], rfl⟩) h
  · next c rest _ _ _ =>
      have hrest := hcs.of_suffix (List.suffix_cons c rest)
      split_ifs at h
      · exact isFolder_readPlace (hrest.of_suffix (List.drop_suffix 1 rest)) h
      · exact isFolder_readPlace (hrest.of_suffix (List.dropWhile_suffix _)) h
      · cases h
        exact isFolder_walkText _ hroot hrest
      · cases h
        exact isFolder_walkText _ hbase.parts.dropLast hcs

/-- What is read after the scheme from the text of a folder is one. -/
theorem isFolder_readAfterScheme {scheme : String} {cs : List Char} {u : Url}
    (hcs : IsFolderText cs) (h : readAfterScheme none scheme cs = .ok u) : IsFolder u.place := by
  simp only [readAfterScheme] at h
  split_ifs at h
  · have hbare : IsFolder (place ⟨scheme, none, .segments [], none⟩) := IsFolder.nil
    exact isFolder_follow hbare hcs h
  · exact isFolder_readPlace (hcs.of_suffix (List.dropWhile_suffix _)) h
  · split at h
    · exact isFolder_readPlace (hcs.of_suffix ⟨['/', '/'], rfl⟩) h
    · next rest _ =>
        cases h
        exact isFolder_walkText _ IsFolder.nil.parts (hcs.of_suffix (List.suffix_cons ..))
    · cases h
      exact IsFolder.nil

/-- Cutting off the scheme leaves an end of the text. -/
theorem cutScheme_suffix {cs rest : List Char} {scheme : String}
    (h : cutScheme cs = some (scheme, rest)) : rest <:+ cs := by
  have hname := List.dropWhile_suffix (l := cs) isSchemeChar
  simp only [cutScheme] at h
  split at h
  · cases h
  · split_ifs at h
    split at h
    · next hrest =>
        cases h
        exact (List.suffix_cons ..).trans (hrest ▸ hname)
    · cases h

/-- Blanks and controls, which do not count around a text. -/
def isBlank (c : Char) : Bool := decide (c.toNat ≤ 0x20)

/-- What counts inside a text. -/
def isKept (c : Char) : Bool := c != '\t' && c != '\n' && c != '\r'

/-- A text is tidied at both ends first, and then within. -/
theorem tidy_eq (s : String) :
    tidy s = ((s.toList.dropWhile isBlank).rdropWhile isBlank).filter isKept := rfl

/-- At the end only what follows the last mark is lost. -/
theorem rdropWhile_append {p : Char → Bool} {front : List Char}
    (hfront : ∀ h : front ≠ [], ¬ p (front.getLast h)) (back : List Char) :
    (front ++ back).rdropWhile p = front ++ back.rdropWhile p := by
  induction back using List.reverseRecOn with
  | nil => simpa using List.rdropWhile_eq_self_iff.2 hfront
  | append_singleton back c ih =>
      rw [← List.append_assoc, List.rdropWhile_concat, List.rdropWhile_concat, ih]
      split_ifs <;> simp

/-- A slash at the end stays, and nothing is added. -/
theorem isFolderText_tidy {before : List Char} (hbefore : ∀ c ∈ before, endsPath c = false) :
    IsFolderText (tidy (String.ofList (before ++ ['/']))) := by
  have hfront : (before ++ ['/']).dropWhile isBlank = before.dropWhile isBlank ++ ['/'] := by
    rw [List.dropWhile_append]
    split_ifs with hall
    · rw [List.isEmpty_iff.1 hall]
      rfl
    · rfl
  have htidy : tidy (String.ofList (before ++ ['/'])) =
      (before.dropWhile isBlank).filter isKept ++ ['/'] := by
    rw [tidy_eq, String.toList_ofList, hfront, List.rdropWhile_concat_neg _ _ _ (by decide),
      List.filter_append]
    rfl
  rw [htidy]
  refine ⟨.inr ⟨_, rfl⟩, List.forall_mem_append.2 ⟨fun c hc => hbefore c ?_, ?_⟩⟩
  · exact (List.dropWhile_sublist _).subset (List.mem_of_mem_filter hc)
  · exact List.forall_mem_singleton.2 rfl

/-- An address that ends with a slash, without a query and a fragment, is that of a folder. -/
theorem isFolder_read {s : String} {u : Url} (hs : IsFolderText (tidy s))
    (h : Url.read s = .ok u) : IsFolder u.place := by
  simp only [Url.read] at h
  split at h
  · next scheme rest hcut =>
      exact isFolder_readAfterScheme (hs.of_suffix (cutScheme_suffix hcut)) h
  · cases h

end Url

end QueryCache.Web
