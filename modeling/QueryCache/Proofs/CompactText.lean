import QueryCache.Json.Printer
import QueryCache.Json.Reader
import QueryCache.Proofs.Identity
import QueryCache.Proofs.Numerals
/-!
# The compact text of a value

The compact text of a value is uniquely decodable: it ends where it says, whatever follows it in
an array or object around (`render_append_inj`), so two values with one text are one value.  A
string reads back up to its closing quote, as no escape holds a bare quote (`readString_escaped`).
A number ends at the first character no number has, and numbers with one text are one number
(`numberText_injective`).  The first character of a value tells of which kind it is.

Nor does the text have a control character (`printable_render`).
-/

namespace QueryCache.Json

open Decimal (IsNumeric)

/-! ## Strings -/

/-- Four digits read back as the number they were made from. -/
theorem readHex4_escape {n : ℕ} (hn : n < 32) (rest : List Char) :
    readHex4 ('0' :: '0' :: Text.lowerHex (n / 16) :: Text.lowerHex (n % 16) :: rest)
      = some (n, rest) := by
  have hzero : Text.hexValue? '0' = some 0 := by decide
  simp only [readHex4, hzero, Text.hexValue?_lowerHex (n / 16) (by omega),
    Text.hexValue?_lowerHex (n % 16) (by omega), Option.bind_eq_bind, Option.bind_some]
  congr 2
  omega

/-- The escape of a control character reads back as the character. -/
theorem readUnicode_escape {c : Char} (hc : c.toNat < 32) (rest : List Char) :
    readUnicode ('0' :: '0' :: Text.lowerHex (c.toNat / 16) :: Text.lowerHex (c.toNat % 16) :: rest)
      = some (c, rest) := by
  rw [readUnicode, readHex4_escape hc]
  simp only [Option.bind_eq_bind, Option.bind_some]
  rw [if_neg (by omega), if_neg (by omega), Char.ofNat_toNat]
  rfl

/-- A character as it is escaped is read as one character. -/
theorem readString_escapeChar (bound : ℕ) (acc : List Char) (c : Char) (rest : List Char) :
    readString (bound + 1) acc (escapeChar c ++ rest) = readString bound (c :: acc) rest := by
  have hof : ∀ {n : ℕ}, c.toNat = n → c = Char.ofNat n := by
    rintro n rfl
    exact (Char.ofNat_toNat c).symm
  unfold escapeChar
  split_ifs with hquote hbackslash hback htab hfeed hform hreturn hcontrol
  · rw [hquote]
    rfl
  · rw [hbackslash]
    rfl
  · rw [hof hback]
    rfl
  · rw [hof htab]
    rfl
  · rw [hof hfeed]
    rfl
  · rw [hof hform]
    rfl
  · rw [hof hreturn]
    rfl
  · simp only [List.cons_append, List.nil_append, readString, readUnicode_escape hcontrol]
    rfl
  · simp_all [readString]

/-- An escaped text reads back up to the quote that closes it. -/
theorem readString_escaped (cs acc rest : List Char) (bound : ℕ) (hbound : cs.length < bound) :
    readString bound acc (cs.flatMap escapeChar ++ '"' :: rest)
      = some (String.ofList (acc.reverse ++ cs), rest) := by
  induction cs generalizing acc bound with
  | nil =>
      obtain ⟨n, rfl⟩ : ∃ n, bound = n + 1 := ⟨bound - 1, by simp at hbound; omega⟩
      simp [readString]
  | cons c cs ih =>
      obtain ⟨n, rfl⟩ : ∃ n, bound = n + 1 := ⟨bound - 1, by simp at hbound; omega⟩
      rw [List.flatMap_cons, List.append_assoc, readString_escapeChar,
        ih (c :: acc) n (by simpa using hbound)]
      simp

/-- **A quoted string ends where its quote says, whatever follows.** -/
theorem quoted_append_inj {s t : String} {r u : List Char} (h : quoted s ++ r = quoted t ++ u) :
    s = t ∧ r = u := by
  have hread : ∀ (s : String) (r : List Char) (bound : ℕ), s.toList.length < bound →
      readString bound [] ((quoted s ++ r).tail) = some (s, r) := by
    intro s r bound hbound
    have h := readString_escaped s.toList [] r bound hbound
    simpa [quoted] using h
  have hs := hread s r (s.toList.length + t.toList.length + 1) (by omega)
  have ht := hread t u (s.toList.length + t.toList.length + 1) (by omega)
  rw [h, ht] at hs
  exact (Prod.mk.inj (Option.some.inj hs.symm)).imp_left id

/-! ## Numbers -/

/-- An integer is written with numeric characters, and neither point nor exponent. -/
theorem intText_isNumeric (n : ℤ) :
    (∀ c ∈ intText n, IsNumeric c) ∧ '.' ∉ intText n ∧ 'e' ∉ intText n := by
  have hdigit : ∀ c ∈ intText n, c.isDigit = true ∨ c = '-' := by
    intro c hc
    unfold intText at hc
    split at hc
    · rcases List.mem_cons.mp hc with rfl | hc
      · exact Or.inr rfl
      · exact Or.inl (Nat.isDigit_of_mem_toDigits (by decide) (by decide) hc)
    · exact Or.inl (Nat.isDigit_of_mem_toDigits (by decide) (by decide) hc)
  refine ⟨fun c hc => ?_, fun hc => ?_, fun hc => ?_⟩
  · rcases hdigit c hc with hc | rfl
    · exact Or.inl hc
    · exact Or.inr (by simp)
  · exact absurd (hdigit _ hc) (by decide)
  · exact absurd (hdigit _ hc) (by decide)

/-- Every number is written with numeric characters. -/
theorem numberText_isNumeric : ∀ (n : Number), ∀ c ∈ numberText n, IsNumeric c
  | .int n => (intText_isNumeric n).1
  | .float x => (Decimal.text_isNumeric x).1

/-- The text of an integer is not empty. -/
theorem intText_ne_nil (n : ℤ) : intText n ≠ [] := by
  unfold intText
  split
  · exact List.cons_ne_nil _ _
  · exact Nat.toDigits_ne_nil

/-- The text of a number is not empty. -/
theorem numberText_ne_nil : ∀ n : Number, numberText n ≠ []
  | .int n => intText_ne_nil n
  | .float x => (Decimal.text_isNumeric x).2.elim List.ne_nil_of_mem List.ne_nil_of_mem

/-- No integer is written as a double is. -/
theorem intText_ne_text (n : ℤ) (x : Binary64) : intText n ≠ (Decimal.text x).toList := by
  intro h
  obtain ⟨-, hpoint, hexponent⟩ := intText_isNumeric n
  rw [h] at hpoint hexponent
  exact (Decimal.text_isNumeric x).2.elim hpoint hexponent

/-- **Numbers with one text are one number.** -/
theorem numberText_injective : ∀ {a b : Number}, numberText a = numberText b → a = b
  | .int _, .int _, h => congrArg Number.int (intText_inj h)
  | .float _, .float _, h =>
      congrArg Number.float (Decimal.text_injective (String.toList_injective h))
  | .int m, .float x, h => absurd h (intText_ne_text m x)
  | .float x, .int m, h => absurd h.symm (intText_ne_text m x)

instance (c : Char) : Decidable (IsNumeric c) :=
  inferInstanceAs (Decidable (c.isDigit = true ∨ c ∈ ['-', '+', '.', 'e']))

/-- Nothing follows, or what follows belongs to the array or object around. -/
def Ends (cs : List Char) : Prop :=
  ∀ c ∈ cs.head?, c = ',' ∨ c = ']' ∨ c = '\x7d'

/-- A number is read off as far as its characters go. -/
theorem takeWhile_numberText (n : Number) {r : List Char} (hr : Ends r) :
    (numberText n ++ r).takeWhile (fun c => decide (IsNumeric c)) = numberText n := by
  rw [List.takeWhile_append_of_pos (by simpa using numberText_isNumeric n)]
  cases r with
  | nil => simp
  | cons c rest =>
      have hnot : ¬IsNumeric c := by
        rcases hr c rfl with rfl | rfl | rfl <;> decide
      rw [List.takeWhile_cons_of_neg (by simpa using hnot), List.append_nil]

/-- A number ends at the first character that no number has. -/
theorem numberText_append_inj {a b : Number} {r s : List Char} (hr : Ends r) (hs : Ends s)
    (h : numberText a ++ r = numberText b ++ s) : a = b ∧ r = s := by
  have htext : numberText a = numberText b := by
    rw [← takeWhile_numberText a hr, h, takeWhile_numberText b hs]
  refine ⟨numberText_injective htext, ?_⟩
  rw [htext] at h
  exact List.append_cancel_left h

/-! ## Values -/

/-- What the first character of a text tells about the value. -/
inductive Kind where
  | null
  | yes
  | no
  | number
  | text
  | array
  | object
deriving DecidableEq

def kind : Json → Kind
  | .null => .null
  | .bool true => .yes
  | .bool false => .no
  | .num _ => .number
  | .str _ => .text
  | .arr _ => .array
  | .obj _ => .object

def kindOf? (c : Char) : Option Kind :=
  if IsNumeric c then some .number
  else
    [('n', Kind.null), ('t', .yes), ('f', .no), ('"', .text), ('[', .array),
      ('\x7b', .object)].lookup c

/-- The first character of a value tells its kind. -/
theorem render_starts (v : Json) :
    ∃ c rest, render v = c :: rest ∧ kindOf? c = some v.kind := by
  match v with
  | .null => exact ⟨_, _, rfl, by decide⟩
  | .bool true => exact ⟨_, _, rfl, by decide⟩
  | .bool false => exact ⟨_, _, rfl, by decide⟩
  | .str s => exact ⟨_, _, rfl, (by decide : kindOf? '"' = some .text)⟩
  | .arr items => exact ⟨_, _, rfl, (by decide : kindOf? '[' = some .array)⟩
  | .obj fields => exact ⟨_, _, rfl, (by decide : kindOf? '\x7b' = some .object)⟩
  | .num n =>
      obtain ⟨c, rest, htext⟩ := List.exists_cons_of_ne_nil (numberText_ne_nil n)
      have hc : IsNumeric c := numberText_isNumeric n c (htext ▸ List.mem_cons_self)
      exact ⟨c, rest, htext, if_pos hc⟩

/-- Values whose texts begin alike are of one kind. -/
theorem kind_of_render {v w : Json} {r s : List Char} (h : render v ++ r = render w ++ s) :
    v.kind = w.kind := by
  obtain ⟨c, cs, hv, hc⟩ := render_starts v
  obtain ⟨d, ds, hw, hd⟩ := render_starts w
  rw [hv, hw] at h
  rw [(List.cons.inj h).1, hd] at hc
  exact (Option.some.inj hc).symm

/-- What a value of a kind looks like. -/
theorem exists_of_kind (w : Json) : match w.kind with
    | .null => w = .null
    | .yes => w = .bool true
    | .no => w = .bool false
    | .number => ∃ n, w = .num n
    | .text => ∃ s, w = .str s
    | .array => ∃ items, w = .arr items
    | .object => ∃ fields, w = .obj fields := by
  match w with
  | .null | .bool true | .bool false => rfl
  | .num _ | .str _ | .arr _ | .obj _ => exact ⟨_, rfl⟩

/-- No value begins with a character that closes an array or object. -/
theorem render_ne_close {v : Json} {c : Char} {r s : List Char} (hc : kindOf? c = none) :
    render v ++ r ≠ c :: s := by
  intro h
  obtain ⟨d, ds, hv, hd⟩ := render_starts v
  rw [hv] at h
  rw [(List.cons.inj h).1, hc] at hd
  cases hd

/-- The text of the items or fields after the first. -/
def following {α : Type} : List α → List Char → List Char
  | [], _ => []
  | _ :: _, text => ',' :: text

/-- The first item, and what follows. -/
theorem renderItems_cons (v : Json) (rest : List Json) :
    renderItems (v :: rest) = render v ++ following rest (renderItems rest) := by
  cases rest with
  | nil => simp [renderItems, following]
  | cons => simp [renderItems, following]

/-- The first field, and what follows. -/
theorem renderFields_cons (k : String) (v : Json) (rest : List (String × Json)) :
    renderFields ((k, v) :: rest)
      = quoted k ++ ':' :: (render v ++ following rest (renderFields rest)) := by
  cases rest with
  | nil => simp [renderFields, following]
  | cons => simp [renderFields, following]

/-- After an item or a field comes a comma or the closing bracket. -/
theorem ends_following {α : Type} (rest : List α) (text r : List Char) {close : Char}
    (hclose : close = ']' ∨ close = '\x7d') : Ends (following rest text ++ close :: r) := by
  cases rest with
  | nil =>
      intro c hc
      obtain rfl : close = c := Option.some.inj hc
      exact Or.inr hclose
  | cons =>
      intro c hc
      exact Or.inl (Option.some.inj hc).symm

/-- Both lists are at their end, or both go on. -/
theorem following_inj {α : Type} {xs ys : List α} {text other r s : List Char} {close : Char}
    (hclose : close = ']' ∨ close = '\x7d')
    (h : following xs text ++ close :: r = following ys other ++ close :: s) :
    xs = [] ∧ ys = [] ∧ r = s ∨ text ++ close :: r = other ++ close :: s := by
  have hcomma : close ≠ ',' := by rcases hclose with rfl | rfl <;> decide
  cases xs <;> cases ys
  · exact Or.inl ⟨rfl, rfl, (List.cons.inj h).2⟩
  · exact absurd (List.cons.inj h).1 hcomma
  · exact absurd (List.cons.inj h).1.symm hcomma
  · exact Or.inr (List.cons.inj h).2

mutual

/-- **A value ends where its text says, whatever follows.** -/
theorem render_append_inj : ∀ (v w : Json) {r s : List Char}, Ends r → Ends s →
    render v ++ r = render w ++ s → v = w ∧ r = s := by
  intro v w r s hr hs h
  have hw := exists_of_kind w
  rw [← kind_of_render h] at hw
  match v with
  | .null | .bool true | .bool false =>
      cases hw
      exact ⟨rfl, List.append_cancel_left h⟩
  | .num a =>
      obtain ⟨b, rfl⟩ := hw
      exact (numberText_append_inj hr hs h).imp_left (congrArg Json.num)
  | .str a =>
      obtain ⟨b, rfl⟩ := hw
      exact (quoted_append_inj h).imp_left (congrArg Json.str)
  | .arr vs =>
      obtain ⟨ws, rfl⟩ := hw
      have hitems : renderItems vs ++ ']' :: r = renderItems ws ++ ']' :: s := by
        simpa [render] using h
      exact (renderItems_append_inj vs ws hitems).imp_left (congrArg Json.arr)
  | .obj fs =>
      obtain ⟨gs, rfl⟩ := hw
      have hfields : renderFields fs ++ '\x7d' :: r = renderFields gs ++ '\x7d' :: s := by
        simpa [render] using h
      exact (renderFields_append_inj fs gs hfields).imp_left (congrArg Json.obj)

/-- Items end where they say. -/
theorem renderItems_append_inj : ∀ (vs ws : List Json) {r s : List Char},
    renderItems vs ++ ']' :: r = renderItems ws ++ ']' :: s → vs = ws ∧ r = s
  | [], [], r, s, h => ⟨rfl, (List.cons.inj h).2⟩
  | [], w :: ws, r, s, h => by
      rw [renderItems_cons, List.append_assoc] at h
      exact absurd h.symm (render_ne_close (by decide))
  | v :: vs, [], r, s, h => by
      rw [renderItems_cons, List.append_assoc] at h
      exact absurd h (render_ne_close (by decide))
  | v :: vs, w :: ws, r, s, h => by
      rw [renderItems_cons, renderItems_cons, List.append_assoc, List.append_assoc] at h
      obtain ⟨rfl, hfollowing⟩ := render_append_inj v w (ends_following _ _ _ (Or.inl rfl))
        (ends_following _ _ _ (Or.inl rfl)) h
      rcases following_inj (Or.inl rfl) hfollowing with ⟨rfl, rfl, hrest⟩ | hitems
      · exact ⟨rfl, hrest⟩
      · obtain ⟨rfl, hrest⟩ := renderItems_append_inj vs ws hitems
        exact ⟨rfl, hrest⟩

/-- Fields end where they say. -/
theorem renderFields_append_inj : ∀ (fs gs : List (String × Json)) {r s : List Char},
    renderFields fs ++ '\x7d' :: r = renderFields gs ++ '\x7d' :: s → fs = gs ∧ r = s
  | [], [], r, s, h => ⟨rfl, (List.cons.inj h).2⟩
  | [], (l, w) :: gs, r, s, h => by
      rw [renderFields_cons] at h
      exact absurd (List.cons.inj h).1 (by decide)
  | (k, v) :: fs, [], r, s, h => by
      rw [renderFields_cons] at h
      exact absurd (List.cons.inj h).1 (by decide)
  | (k, v) :: fs, (l, w) :: gs, r, s, h => by
      rw [renderFields_cons, renderFields_cons, List.append_assoc, List.append_assoc] at h
      obtain ⟨rfl, hvalue⟩ := quoted_append_inj h
      rw [List.cons_append, List.cons_append, List.append_assoc, List.append_assoc] at hvalue
      obtain ⟨rfl, hfollowing⟩ := render_append_inj v w (ends_following _ _ _ (Or.inr rfl))
        (ends_following _ _ _ (Or.inr rfl)) (List.cons.inj hvalue).2
      rcases following_inj (Or.inr rfl) hfollowing with ⟨rfl, rfl, hrest⟩ | hfields
      · exact ⟨rfl, hrest⟩
      · obtain ⟨rfl, hrest⟩ := renderFields_append_inj fs gs hfields
        exact ⟨rfl, hrest⟩

end

/-- **Values with one text are one value.** -/
theorem render_injective {v w : Json} (h : render v = render w) : v = w :=
  (render_append_inj v w (r := []) (s := []) nofun nofun (by rw [h])).1

/-! ## No control characters -/

/-- No control character among them. -/
def Printable (cs : List Char) : Prop := ∀ c ∈ cs, 32 ≤ c.toNat

@[simp] theorem printable_nil : Printable [] := List.forall_mem_nil _

@[simp] theorem printable_cons {c : Char} {cs : List Char} :
    Printable (c :: cs) ↔ 32 ≤ c.toNat ∧ Printable cs :=
  List.forall_mem_cons

/-- A text is printable if its parts are. -/
@[simp] theorem printable_append {cs ds : List Char} :
    Printable (cs ++ ds) ↔ Printable cs ∧ Printable ds :=
  List.forall_mem_append

/-- Numbers are printable. -/
theorem printable_numberText (n : Number) : Printable (numberText n) := by
  have hmarks : ∀ c ∈ ['-', '+', '.', 'e'], 32 ≤ c.toNat := by simp
  intro c hc
  rcases numberText_isNumeric n c hc with hdigit | hmark
  · have hrange : 48 ≤ c.toNat := by
      simp only [Char.isDigit, Bool.and_eq_true, decide_eq_true_eq] at hdigit
      exact hdigit.1
    omega
  · exact hmarks c hmark

/-- Control characters are escaped. -/
theorem printable_escapeChar (c : Char) : Printable (escapeChar c) := by
  have hhex : ∀ n < 16, 32 ≤ (Text.lowerHex n).toNat := by decide
  unfold escapeChar
  split_ifs with _ _ _ _ _ _ _ hcontrol
  all_goals simp
  · exact ⟨hhex _ (by omega), hhex _ (by omega)⟩
  · omega

/-- Quoted strings are printable. -/
theorem printable_quoted (s : String) : Printable (quoted s) := by
  have hbody : Printable (s.toList.flatMap escapeChar) := by
    intro c hc
    obtain ⟨d, -, hd⟩ := List.mem_flatMap.mp hc
    exact printable_escapeChar d c hd
  simp [quoted, hbody]

theorem printable_following {α : Type} (rest : List α) {text : List Char}
    (h : Printable text) : Printable (following rest text) := by
  cases rest <;> simp [following, h]

mutual

/-- The compact text of a value has no control character. -/
theorem printable_render : ∀ v : Json, Printable (render v)
  | .null | .bool true | .bool false => by simp [render]
  | .num n => printable_numberText n
  | .str s => printable_quoted s
  | .arr vs => by simp [render, printable_renderItems vs]
  | .obj fs => by simp [render, printable_renderFields fs]

/-- Items are printable. -/
theorem printable_renderItems : ∀ vs : List Json, Printable (renderItems vs)
  | [] => printable_nil
  | v :: vs => by
      rw [renderItems_cons, printable_append]
      exact ⟨printable_render v, printable_following vs (printable_renderItems vs)⟩

/-- Fields are printable. -/
theorem printable_renderFields : ∀ fs : List (String × Json), Printable (renderFields fs)
  | [] => printable_nil
  | (k, v) :: fs => by
      have hrest := printable_following fs (printable_renderFields fs)
      simp [renderFields_cons, printable_quoted k, printable_render v, hrest]

end

end QueryCache.Json
