/-!
# Blank characters and trimming

Tags and server messages arrive with stray space around them.  *Blank* here is the
Unicode property `White_Space`: twenty-five characters, of which ASCII has six.  Zero-width
characters such as U+200B and U+FEFF are not blank.

`trim` drops blanks at both ends and keeps the inside as it is; `cut` splits a text at
the first occurrence of a character.
-/

namespace QueryCache.Text

/-- The characters with the Unicode property `White_Space`. -/
def isBlank (c : Char) : Bool :=
  let n := c.toNat
  (9 ≤ n && n ≤ 13) || n == 0x20 || n == 0x85 || n == 0xA0 || n == 0x1680
    || (0x2000 ≤ n && n ≤ 0x200A) || n == 0x2028 || n == 0x2029 || n == 0x202F
    || n == 0x205F || n == 0x3000

/-- Drops every character that satisfies `p` from both ends. -/
def trimEnds (p : Char → Bool) (l : List Char) : List Char :=
  ((l.dropWhile p).reverse.dropWhile p).reverse

/-- The text without the blanks around it. -/
def trim (s : String) : String :=
  String.ofList (trimEnds isBlank s.toList)

/-- What stands before and after the first `c`, if there is one. -/
def cutList (c : Char) : List Char → Option (List Char × List Char)
  | [] => none
  | x :: rest =>
    if x = c then some ([], rest)
    else (cutList c rest).map fun (before, after) => (x :: before, after)

/-- Splits a text at the first `c`, which belongs to neither part. -/
def cut (c : Char) (s : String) : Option (String × String) :=
  (cutList c s.toList).map fun (before, after) => (String.ofList before, String.ofList after)

/-- Cutting loses nothing but the separator. -/
theorem cutList_eq_some {c : Char} {l before after : List Char}
    (h : cutList c l = some (before, after)) : l = before ++ c :: after ∧ c ∉ before := by
  induction l generalizing before with
  | nil => simp [cutList] at h
  | cons x rest ih =>
    by_cases hx : x = c
    · simp only [cutList, hx, if_true, Option.some.injEq, Prod.mk.injEq] at h
      obtain ⟨rfl, rfl⟩ := h
      simp [hx]
    · simp only [cutList, hx, if_false, Option.map_eq_some_iff, Prod.exists] at h
      obtain ⟨b, a, hcut, heq⟩ := h
      obtain ⟨rfl, rfl⟩ := Prod.mk.injEq .. ▸ heq
      obtain ⟨hrest, hmem⟩ := ih hcut
      exact ⟨by simp [hrest], by simp [hmem, Ne.symm hx]⟩

/-- A text cannot be cut exactly when the separator does not occur in it. -/
theorem cutList_eq_none {c : Char} {l : List Char} : cutList c l = none ↔ c ∉ l := by
  induction l with
  | nil => simp [cutList]
  | cons x rest ih =>
    by_cases hx : x = c
    · simp [cutList, hx]
    · simp [cutList, hx, ih, Ne.symm hx]

end QueryCache.Text
