import QueryCache.Proofs.Intervals
import Mathlib.Data.List.TakeWhile
/-!
# The text of a double

A double is written as a sign and a numeral: digits with a point among them, or a mantissa and an
exponent.  `Numeral` says which texts are numerals and what number each stands for, and `reading`
finds the number again, so a numeral stands for one number only.

However the digits of a decimal are laid out, the numeral stands for that decimal
(`layout_numeral`), hence for a number of the double's interval or for zero.  Intervals having no
number in common, doubles with one text are one double (`text_injective`).
-/

namespace QueryCache.Decimal

variable {m : ℕ} {q : ℤ} {r : ℚ}

/-! ## The text reads back -/

/-- Decimal digits only. -/
def AllDigits (cs : List Char) : Prop := ∀ c ∈ cs, c.isDigit = true

instance (cs : List Char) : Decidable (AllDigits cs) :=
  List.decidableBAll (fun c : Char => c.isDigit = true) cs

/-- An exponent with its sign. -/
def exponentText (e : ℤ) : List Char :=
  (if e < 0 then '-' else '+') :: Nat.toDigits 10 e.natAbs

/-- Digits, with or without a point among them, and the number they stand for. -/
inductive Mantissa : List Char → ℚ → Prop
  | whole {whole : List Char} : whole ≠ [] → AllDigits whole →
      Mantissa whole (Nat.ofDigitChars 10 whole 0)
  | point (whole fraction : List Char) : whole ≠ [] → AllDigits whole → AllDigits fraction →
      Mantissa (whole ++ '.' :: fraction)
        (Nat.ofDigitChars 10 (whole ++ fraction) 0 * 10 ^ (-(fraction.length : ℤ)))

/-- The texts of decimals without a sign, and the number each stands for. -/
inductive Numeral : List Char → ℚ → Prop
  | plain {body : List Char} {r : ℚ} : Mantissa body r → '.' ∈ body → Numeral body r
  | scientific {mantissa : List Char} {r : ℚ} (e : ℤ) : Mantissa mantissa r →
      Numeral (mantissa ++ 'e' :: exponentText e) (r * 10 ^ e)

/-- The text of a double is its sign and the layout of its shortest decimal. -/
theorem text_eq (x : Binary64) : (text x).toList = (if x.isNegative then ['-'] else []) ++
    if x.isZero then ['0', '.', '0'] else layout (shortest x) := by
  have htext : text x = (if x.isNegative then "-" else "") ++
      if x.isZero then "0.0" else String.ofList (layout (shortest x)) := by
    unfold text
    cases x.isZero <;> rfl
  rw [htext, String.toList_append]
  congr 1
  · split <;> rfl
  · split
    · rfl
    · exact String.toList_ofList

/-- Natural numbers are written with digits only. -/
theorem allDigits_toDigits (n : ℕ) : AllDigits (Nat.toDigits 10 n) :=
  fun _ hc => Nat.isDigit_of_mem_toDigits (by decide) (by decide) hc

theorem allDigits_zeros (n : ℕ) : AllDigits (List.replicate n '0') := by
  intro c hc
  rw [List.eq_of_mem_replicate hc]
  rfl

theorem AllDigits.append {cs ds : List Char} (hcs : AllDigits cs) (hds : AllDigits ds) :
    AllDigits (cs ++ ds) :=
  fun c hc => (List.mem_append.mp hc).elim (hcs c) (hds c)

/-! The four layouts. -/

section Layouts

variable {digits : List Char}

/-- An integer gets zeros for the powers its digits do not reach, and a fraction. -/
theorem numeral_padded (hne : digits ≠ []) (hdigits : AllDigits digits) (k : ℕ) :
    Numeral (digits ++ List.replicate k '0' ++ ['.', '0'])
      (Nat.ofDigitChars 10 digits 0 * 10 ^ (k : ℤ)) := by
  have hvalue : (Nat.ofDigitChars 10 digits 0 * 10 ^ (k : ℤ) : ℚ) =
      Nat.ofDigitChars 10 ((digits ++ List.replicate k '0') ++ ['0']) 0
        * 10 ^ (-(['0'].length : ℤ)) := by
    rw [List.append_assoc, ← List.replicate_succ', Nat.ofDigitChars_append,
      Nat.ofDigitChars_replicate_zero, pow_succ]
    simp
    ring
  rw [hvalue]
  exact .plain (.point _ _ (by simp [hne]) (hdigits.append (allDigits_zeros k)) (by decide)) (by simp)

/-- The point stands among the digits. -/
theorem numeral_split (hne : digits ≠ []) (hdigits : AllDigits digits) (n : ℕ) :
    Numeral (digits.take (n + 1) ++ '.' :: digits.drop (n + 1))
      (Nat.ofDigitChars 10 digits 0 * 10 ^ (-((digits.drop (n + 1)).length : ℤ))) := by
  have hpoint := Mantissa.point (digits.take (n + 1)) (digits.drop (n + 1))
    (by simp [hne]) (fun c hc => hdigits c (List.mem_of_mem_take hc))
    (fun c hc => hdigits c (List.mem_of_mem_drop hc))
  rw [List.take_append_drop] at hpoint
  exact .plain hpoint (by simp)

/-- A fraction gets zeros before its digits. -/
theorem numeral_small (hdigits : AllDigits digits) (k : ℕ) :
    Numeral ('0' :: '.' :: List.replicate k '0' ++ digits)
      (Nat.ofDigitChars 10 digits 0 * 10 ^ (-((k + digits.length : ℕ) : ℤ))) := by
  have hpoint := Mantissa.point ['0'] (List.replicate k '0' ++ digits)
    (by simp) (by decide) ((allDigits_zeros k).append hdigits)
  have hvalue : Nat.ofDigitChars 10 (['0'] ++ (List.replicate k '0' ++ digits)) 0
      = Nat.ofDigitChars 10 digits 0 := by
    rw [← List.append_assoc, Nat.ofDigitChars_append, ← List.replicate_one,
      ← List.replicate_add, Nat.ofDigitChars_replicate_zero, Nat.mul_zero]
  rw [hvalue, List.length_append, List.length_replicate] at hpoint
  exact .plain hpoint (by simp)

/-- The point stands after the first digit, and the exponent moves it to its place. -/
theorem numeral_scientific {d : Char} {rest : List Char} (hdigits : AllDigits (d :: rest))
    (e : ℤ) :
    Numeral (d :: '.' :: rest ++ 'e' :: exponentText e)
      (Nat.ofDigitChars 10 (d :: rest) 0 * 10 ^ (e - rest.length)) := by
  have hpoint := Mantissa.point [d] rest (by simp)
    (fun c hc => hdigits c (by simp_all)) (fun c hc => hdigits c (List.mem_cons_of_mem d hc))
  have hvalue : (Nat.ofDigitChars 10 (d :: rest) 0 * 10 ^ (e - rest.length) : ℚ) =
      Nat.ofDigitChars 10 ([d] ++ rest) 0 * 10 ^ (-(rest.length : ℤ)) * 10 ^ e := by
    rw [mul_assoc, ← zpow_add₀ (by norm_num), neg_add_eq_sub]
    rfl
  rw [hvalue]
  exact .scientific e hpoint

end Layouts

/-- However its digits are laid out, the numeral stands for the decimal. -/
theorem layout_numeral (s : Scaled) : Numeral (layout s) s.toRat := by
  have hdigits := allDigits_toDigits s.digits
  have hne : Nat.toDigits 10 s.digits ≠ [] := Nat.toDigits_ne_nil
  have hvalue : ∀ scale : ℤ, s.scale = scale →
      s.toRat = Nat.ofDigitChars 10 (Nat.toDigits 10 s.digits) 0 * 10 ^ scale := by
    rintro scale rfl
    rw [Nat.ofDigitChars_toDigits (by decide) (by decide)]
    rfl
  obtain ⟨e, he⟩ : ∃ e : ℤ, e = s.scale + (Nat.toDigits 10 s.digits).length - 1 := ⟨_, rfl⟩
  unfold layout
  simp only [← he]
  generalize Nat.toDigits 10 s.digits = digits at *
  split
  · rename_i hplain
    obtain ⟨n, rfl⟩ := Int.eq_ofNat_of_zero_le hplain.1
    rw [Int.toNat_natCast]
    split
    · rename_i hlong
      rw [hvalue (n + 1 - digits.length : ℕ) (by omega)]
      exact numeral_padded hne hdigits _
    · rename_i hshort
      rw [hvalue (-((digits.drop (n + 1)).length : ℤ)) (by rw [List.length_drop]; omega)]
      exact numeral_split hne hdigits n
  · split
    · rename_i hsmall
      rw [hvalue (-(((-e).toNat - 1 + digits.length : ℕ) : ℤ)) (by omega)]
      exact numeral_small hdigits _
    · rcases digits with _ | ⟨d, _ | ⟨second, rest⟩⟩
      · exact absurd rfl hne
      · rw [hvalue e (by simpa using he.symm)]
        exact .scientific e (.whole hne hdigits)
      · rw [hvalue (e - (second :: rest).length) (by simp at he ⊢; omega)]
        exact numeral_scientific hdigits e

/-- The exponent after the `e`, or zero. -/
def exponentOf : List Char → ℤ
  | _ :: sign :: digits =>
      if sign = '-' then -(Nat.ofDigitChars 10 digits 0 : ℤ) else Nat.ofDigitChars 10 digits 0
  | _ => 0

/-- Digits with a point among them are read without it and scaled by what follows it. -/
def mantissaOf (cs : List Char) : ℚ :=
  let whole := cs.takeWhile (· != '.')
  let fraction := (cs.dropWhile (· != '.')).drop 1
  Nat.ofDigitChars 10 (whole ++ fraction) 0 * 10 ^ (-(fraction.length : ℤ))

/-- The number a text stands for. -/
def reading (body : List Char) : ℚ :=
  mantissaOf (body.takeWhile (· != 'e')) * 10 ^ exponentOf (body.dropWhile (· != 'e'))

/-- No mark stands among digits. -/
theorem AllDigits.forall_ne {cs : List Char} (hcs : AllDigits cs) (mark : Char)
    (hmark : mark.isDigit = false) : ∀ c ∈ cs, (c != mark) = true := by
  intro c hc
  simp only [bne_iff_ne]
  rintro rfl
  rw [hcs c hc] at hmark
  cases hmark

/-- A mark splits a text where it stands first. -/
theorem split_at_mark {cs : List Char} (rest : List Char) {mark : Char}
    (hcs : ∀ c ∈ cs, (c != mark) = true) :
    (cs ++ mark :: rest).takeWhile (· != mark) = cs
      ∧ (cs ++ mark :: rest).dropWhile (· != mark) = mark :: rest := by
  rw [List.takeWhile_append_of_pos hcs, List.dropWhile_append_of_pos hcs]
  simp

/-- An exponent reads back after its mark. -/
theorem exponentOf_exponentText (c : Char) (e : ℤ) : exponentOf (c :: exponentText e) = e := by
  have hread : Nat.ofDigitChars 10 (Nat.toDigits 10 e.natAbs) 0 = e.natAbs :=
    Nat.ofDigitChars_toDigits (by decide) (by decide)
  simp only [exponentText, exponentOf, hread]
  split
  · rw [if_pos rfl]
    omega
  · rw [if_neg (by decide)]
    omega

/-- A mantissa reads back as its number, and no mark of an exponent is in it. -/
theorem Mantissa.read {cs : List Char} (h : Mantissa cs r) :
    mantissaOf cs = r ∧ ∀ c ∈ cs, (c != 'e') = true := by
  cases h with
  | whole hne hwhole =>
      have hpoint := hwhole.forall_ne '.' (by decide)
      refine ⟨?_, hwhole.forall_ne 'e' (by decide)⟩
      simp [mantissaOf, List.takeWhile_eq_self_iff.mpr hpoint, List.dropWhile_eq_nil_iff.mpr hpoint]
  | point whole fraction hne hwhole hfraction =>
      refine ⟨?_, fun c hc => ?_⟩
      · obtain ⟨htake, hdrop⟩ := split_at_mark fraction
          (hwhole.forall_ne '.' (by decide))
        simp only [mantissaOf, htake, hdrop, List.drop_one, List.tail_cons]
      · rcases List.mem_append.mp hc with hc | hc
        · exact hwhole.forall_ne 'e' (by decide) c hc
        · rcases List.mem_cons.mp hc with rfl | hc
          · rfl
          · exact hfraction.forall_ne 'e' (by decide) c hc

/-- A numeral reads back as its number. -/
theorem Numeral.read {body : List Char} (h : Numeral body r) : reading body = r := by
  cases h with
  | plain hmantissa hpoint =>
      obtain ⟨hread, hmark⟩ := hmantissa.read
      rw [reading, List.takeWhile_eq_self_iff.mpr hmark, List.dropWhile_eq_nil_iff.mpr hmark, hread]
      exact mul_one r
  | scientific e hmantissa =>
      obtain ⟨hread, hmark⟩ := hmantissa.read
      obtain ⟨htake, hdrop⟩ := split_at_mark (exponentText e) hmark
      rw [reading, htake, hdrop, exponentOf_exponentText, hread]

/-- A character of a number's text. -/
def IsNumeric (c : Char) : Prop := c.isDigit = true ∨ c ∈ ['-', '+', '.', 'e']

/-- A mantissa begins with a digit. -/
theorem Mantissa.starts {cs : List Char} (h : Mantissa cs r) :
    ∃ c rest, cs = c :: rest ∧ c.isDigit = true := by
  cases h with
  | whole hne hwhole =>
      obtain ⟨c, rest, rfl⟩ := List.exists_cons_of_ne_nil hne
      exact ⟨c, rest, rfl, hwhole c List.mem_cons_self⟩
  | point _ _ hne hwhole _ =>
      obtain ⟨c, rest, rfl⟩ := List.exists_cons_of_ne_nil hne
      exact ⟨c, _, rfl, hwhole c List.mem_cons_self⟩

/-- A numeral begins with a digit. -/
theorem Numeral.starts {body : List Char} (h : Numeral body r) :
    ∃ c rest, body = c :: rest ∧ c.isDigit = true := by
  cases h with
  | plain hmantissa _ => exact hmantissa.starts
  | scientific e hmantissa =>
      obtain ⟨c, rest, rfl, hdigit⟩ := hmantissa.starts
      exact ⟨c, _, rfl, hdigit⟩

/-- A mantissa is made of the characters of numbers. -/
theorem Mantissa.isNumeric {cs : List Char} (h : Mantissa cs r) :
    ∀ c ∈ cs, IsNumeric c := by
  cases h with
  | whole _ hwhole => exact fun c hc => Or.inl (hwhole c hc)
  | point _ _ _ hwhole hfraction =>
      intro c hc
      rcases List.mem_append.mp hc with hc | hc
      · exact Or.inl (hwhole c hc)
      · rcases List.mem_cons.mp hc with rfl | hc
        · exact Or.inr (by decide)
        · exact Or.inl (hfraction c hc)

/-- A numeral is made of the characters of numbers. -/
theorem Numeral.isNumeric {body : List Char} (h : Numeral body r) :
    ∀ c ∈ body, IsNumeric c := by
  cases h with
  | plain hmantissa _ => exact hmantissa.isNumeric
  | scientific e hmantissa =>
      intro c hc
      rcases List.mem_append.mp hc with hc | hc
      · exact hmantissa.isNumeric c hc
      · rcases List.mem_cons.mp hc with rfl | hc
        · exact Or.inr (by decide)
        · rcases List.mem_cons.mp hc with rfl | hc
          · split <;> exact Or.inr (by decide)
          · exact Or.inl (allDigits_toDigits _ c hc)

/-- No integer is written so. -/
theorem Numeral.marked {body : List Char} (h : Numeral body r) :
    '.' ∈ body ∨ 'e' ∈ body := by
  cases h with
  | plain _ hpoint => exact Or.inl hpoint
  | scientific => exact Or.inr (by simp)

/-! ## Doubles and their texts -/

/-- The numbers of an interval are positive. -/
theorem holds_pos (hm : IsMagnitude m q) (h : (Interval.around m q).Holds r) : 0 < r := by
  have hlow : 0 < (Interval.around m q).low := by
    have := hm.pos
    simp only [Interval.around]
    split <;> omega
  have hend : (0 : ℚ) < (Interval.around m q).low * 2 ^ (Interval.around m q).exponent := by
    positivity
  exact hend.trans_le h.low_le.1

/-- Zero has its magnitude, whatever its sign. -/
theorem magnitude_of_isZero {x : Binary64} (hx : x.isZero = true) : x.magnitude = (0, -1074) := by
  obtain ⟨hexponent, hfraction⟩ : x.exponentField = 0 ∧ x.fractionField = 0 := by
    simpa [Binary64.isZero] using hx
  simp [Binary64.magnitude, hexponent, hfraction]

/-- The text of a double is a sign and a numeral, and the numeral stands for zero or for a
number of the double's interval. -/
theorem text_numeral (x : Binary64) : ∃ body r,
    (text x).toList = (if x.isNegative then ['-'] else []) ++ body ∧ Numeral body r ∧
      (x.isZero = true ∧ r = 0 ∨
        x.isZero = false ∧ (Interval.around x.magnitude.1 x.magnitude.2).Holds r) := by
  rw [text_eq]
  cases hx : x.isZero with
  | true =>
      have hzero := Mantissa.point ['0'] ['0'] (by simp) (by decide) (by decide)
      have hread : Nat.ofDigitChars 10 (['0'] ++ ['0']) 0 = 0 := by decide
      rw [hread, Nat.cast_zero, zero_mul] at hzero
      exact ⟨_, 0, rfl, .plain hzero (by simp), Or.inl ⟨rfl, rfl⟩⟩
  | false => exact ⟨_, _, rfl, layout_numeral _, Or.inr ⟨rfl, shortest_holds hx⟩⟩

/-- Only a minus before the digits makes a number negative. -/
theorem sign_of_text {x y : Binary64} {body other : List Char} {r t : ℚ}
    (hbody : Numeral body r) (hother : Numeral other t)
    (h : (if x.isNegative then ['-'] else []) ++ body
      = (if y.isNegative then ['-'] else []) ++ other) :
    x.isNegative = y.isNegative ∧ body = other := by
  obtain ⟨c, cs, rfl, hc⟩ := hbody.starts
  obtain ⟨d, ds, rfl, hd⟩ := hother.starts
  cases hx : x.isNegative <;> cases hy : y.isNegative <;> simp only [hx, hy] at h
  · exact ⟨rfl, h⟩
  · rw [(List.cons.inj h).1] at hc
    cases hc
  · rw [← (List.cons.inj h).1] at hd
    cases hd
  · exact ⟨rfl, (List.cons.inj h).2⟩

/-- **Doubles with one text are one double.** -/
theorem text_injective {x y : Binary64} (h : text x = text y) : x = y := by
  obtain ⟨body, r, htext, hbody, hx⟩ := text_numeral x
  obtain ⟨other, t, htext', hother, hy⟩ := text_numeral y
  rw [h, htext'] at htext
  obtain ⟨hsign, rfl⟩ := sign_of_text hother hbody htext
  obtain rfl : t = r := hother.read.symm.trans hbody.read
  refine eq_of_magnitude hsign.symm ?_
  rcases hx with ⟨hzero, hr⟩ | ⟨hx, hr⟩ <;> rcases hy with ⟨hzero', ht⟩ | ⟨hy, ht⟩
  · rw [magnitude_of_isZero hzero, magnitude_of_isZero hzero']
  · exact absurd hr (holds_pos (isMagnitude y hy) ht).ne'
  · exact absurd ht (holds_pos (isMagnitude x hx) hr).ne'
  · obtain ⟨hm, hq⟩ := around_unique (isMagnitude x hx) (isMagnitude y hy) hr ht
    exact Prod.ext hm hq

/-- A double's text has digits, signs, point and exponent mark only, and a point or an exponent
mark among them. -/
theorem text_isNumeric (x : Binary64) :
    (∀ c ∈ (text x).toList, IsNumeric c) ∧ ('.' ∈ (text x).toList ∨ 'e' ∈ (text x).toList) := by
  obtain ⟨body, r, htext, hbody, -⟩ := text_numeral x
  rw [htext]
  refine ⟨fun c hc => ?_, hbody.marked.imp (List.mem_append_right _) (List.mem_append_right _)⟩
  rcases List.mem_append.mp hc with hc | hc
  · split at hc
    · exact Or.inr (by simp [List.mem_singleton.mp hc])
    · cases hc
  · exact hbody.isNumeric c hc

end QueryCache.Decimal
