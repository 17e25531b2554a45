import QueryCache.Decimal.Shortest
import Mathlib.Algebra.Order.Field.Power
import Mathlib.Algebra.Order.Field.Rat
import Mathlib.Data.Rat.Cast.Order
import Mathlib.Tactic.FieldSimp
import Mathlib.Tactic.Linarith
import Mathlib.Tactic.NormNum
import Mathlib.Tactic.Positivity
import Mathlib.Tactic.Ring
import Mathlib.Tactic.Set

/-!
# The interval of a double

The shortest decimal of a double is a number of the double's interval (`shortest_holds`).  What is
found on a grid of powers of ten lies in the interval, since a candidate is taken only if it does;
and something is found, since the grid of seventeen digits is finer than any interval is wide.

No number belongs to the intervals of two doubles (`around_unique`).  Those of neighbours share an
end, but of two neighbours only the one with the even significand has its ends.
-/

namespace QueryCache.Decimal

/-! ## Powers -/

/-- Both parts of the ratio that stands for a power are positive. -/
theorem powRatio_pos {base : ℕ} (hbase : 0 < base) (e : ℤ) :
    0 < (powRatio base e).1 ∧ 0 < (powRatio base e).2 := by
  unfold powRatio
  split
  · exact ⟨Nat.pow_pos hbase, Nat.one_pos⟩
  · exact ⟨Nat.one_pos, Nat.pow_pos hbase⟩

/-- The ratio stands for the power. -/
theorem powRatio_eq {base : ℕ} (hbase : 0 < base) (e : ℤ) :
    ((powRatio base e).1 : ℚ) = (base : ℚ) ^ e * (powRatio base e).2 := by
  have hne : (base : ℚ) ≠ 0 := by exact_mod_cast hbase.ne'
  unfold powRatio
  split
  · rename_i he
    obtain ⟨n, rfl⟩ := Int.eq_ofNat_of_zero_le he
    simp
  · rename_i he
    obtain ⟨n, rfl⟩ : ∃ n : ℕ, e = -n := ⟨(-e).toNat, by omega⟩
    simp [hne]

/-- A number is below the power of ten with as many zeros as it has digits. -/
theorem lt_pow_digitCount (n : ℕ) : n < 10 ^ digitCount n :=
  (Nat.length_toDigits_le_iff (by decide) Nat.length_toDigits_pos).mp le_rfl

/-- A positive number is not below the power of ten with a zero less than it has digits. -/
theorem pow_le_of_pos {n : ℕ} (hn : 0 < n) : 10 ^ (digitCount n - 1) ≤ n := by
  by_cases hone : digitCount n - 1 = 0
  · rw [hone]
    exact hn
  · have h := mt (Nat.length_toDigits_le_iff (b := 10) (n := n) (by decide)
      (Nat.pos_of_ne_zero hone)).mpr
    have hpos : 0 < digitCount n := Nat.length_toDigits_pos
    exact Nat.le_of_not_lt (h (by unfold digitCount at *; omega))

/-- The leading digit does not stand for more than the number. -/
theorem pow_leadingExponent_le {num den : ℕ} (hnum : 0 < num) (hden : 0 < den) :
    (10 : ℚ) ^ leadingExponent num den * den ≤ num := by
  unfold leadingExponent
  split
  · rename_i hle
    have hpos : 0 < digitCount (num / den) := Nat.length_toDigits_pos
    have hpow : 10 ^ (digitCount (num / den) - 1) * den ≤ num :=
      (Nat.mul_le_mul_right den (pow_le_of_pos (Nat.div_pos hle hden))).trans
        (Nat.div_mul_le_self num den)
    rw [show (digitCount (num / den) : ℤ) - 1 = (digitCount (num / den) - 1 : ℕ) by omega,
      zpow_natCast]
    exact_mod_cast hpow
  · have hceil : den ≤ 10 ^ digitCount ((den + num - 1) / num - 1) * num := by
      have hlt := lt_pow_digitCount ((den + num - 1) / num - 1)
      have hdiv : (den + num - 1) / num ≤ 10 ^ digitCount ((den + num - 1) / num - 1) := by omega
      rw [Nat.div_le_iff_le_mul_add_pred hnum] at hdiv
      rw [Nat.mul_comm]
      omega
    rw [zpow_neg, zpow_natCast, inv_mul_le_iff₀ (by positivity)]
    exact_mod_cast hceil

/-! ## The digits lie in the interval -/

/-- The number a decimal stands for. -/
def Scaled.toRat (s : Scaled) : ℚ := s.digits * 10 ^ s.scale

namespace Interval

variable (i : Interval) (scale : ℤ)

/-- The number belongs to the interval. -/
def Holds (r : ℚ) : Prop :=
  if i.closed then i.low * 2 ^ i.exponent ≤ r ∧ r ≤ i.high * 2 ^ i.exponent
  else i.low * 2 ^ i.exponent < r ∧ r < i.high * 2 ^ i.exponent

/-- The two measures are to each other as a unit of the interval and a unit of the grid. -/
theorem measures_eq : ∃ measure : ℚ, 0 < measure ∧
    ((i.measures scale).1 : ℚ) = 2 ^ i.exponent * measure ∧
    ((i.measures scale).2 : ℚ) = 10 ^ scale * measure := by
  have hb := (powRatio_pos (show 0 < 2 by decide) i.exponent).2
  have hd := (powRatio_pos (show 0 < 10 by decide) scale).2
  refine ⟨(powRatio 2 i.exponent).2 * (powRatio 10 scale).2, by positivity, ?_, ?_⟩
  · simp only [measures, Nat.cast_mul, powRatio_eq (show 0 < 2 by decide)]
    push_cast
    ring
  · simp only [measures, Nat.cast_mul, powRatio_eq (show 0 < 10 by decide)]
    push_cast
    ring

/-- A candidate is taken if the number it stands for is in the interval. -/
theorem inside_iff (n : ℕ) :
    i.inside scale n = true ↔ i.Holds (Scaled.toRat ⟨n, scale⟩) := by
  obtain ⟨measure, hpos, hunit, hstep⟩ := i.measures_eq scale
  have hle : ∀ a b c d : ℕ, a * c ≤ b * d ↔ (a : ℚ) * c ≤ b * d := by
    intro a b c d
    exact_mod_cast Iff.rfl
  have hlt : ∀ a b c d : ℕ, a * c < b * d ↔ (a : ℚ) * c < b * d := by
    intro a b c d
    exact_mod_cast Iff.rfl
  unfold inside Holds Scaled.toRat
  dsimp only
  split <;>
    simp only [Bool.and_eq_true, decide_eq_true_eq, hle, hlt, hunit, hstep, ← mul_assoc,
      mul_le_mul_iff_of_pos_right hpos, mul_lt_mul_iff_of_pos_right hpos]

/-- The value lies between its two neighbours on the grid. -/
theorem below_le : (i.below scale : ℚ) * 10 ^ scale ≤ i.value * 2 ^ i.exponent := by
  obtain ⟨measure, hpos, hunit, hstep⟩ := i.measures_eq scale
  have h : (i.below scale : ℚ) * (i.measures scale).2 ≤ i.value * (i.measures scale).1 := by
    exact_mod_cast Nat.div_mul_le_self (i.value * (i.measures scale).1) (i.measures scale).2
  rw [hunit, hstep, ← mul_assoc, ← mul_assoc] at h
  exact le_of_mul_le_mul_right h hpos

/-- The value lies below the next number of the grid. -/
theorem lt_below_succ :
    (i.value : ℚ) * 2 ^ i.exponent < (i.below scale + 1 : ℕ) * 10 ^ scale := by
  obtain ⟨measure, hpos, hunit, hstep⟩ := i.measures_eq scale
  have hstepPos : 0 < (i.measures scale).2 := by
    have : (0 : ℚ) < (i.measures scale).2 := hstep ▸ by positivity
    exact_mod_cast this
  have h : (i.value : ℚ) * (i.measures scale).1
      < (i.below scale + 1 : ℕ) * (i.measures scale).2 := by
    rw [mul_comm ((i.below scale + 1 : ℕ) : ℚ)]
    exact_mod_cast Nat.lt_mul_div_succ (i.value * (i.measures scale).1) hstepPos
  rw [hunit, hstep, ← mul_assoc, ← mul_assoc] at h
  exact lt_of_mul_lt_mul_right h hpos.le

/-- Only the value's two neighbours on the grid are candidates. -/
theorem onGrid?_eq : ∃ nearer : Bool, i.onGrid? scale =
    match i.inside scale (i.below scale), i.inside scale (i.below scale + 1) with
    | true, true =>
        if nearer then some ⟨i.below scale, scale⟩ else some ⟨i.below scale + 1, scale⟩
    | true, false => some ⟨i.below scale, scale⟩
    | false, true => some ⟨i.below scale + 1, scale⟩
    | false, false => none :=
  ⟨_, rfl⟩

variable {i scale}

/-- A decimal found on the grid lies in the interval. -/
theorem holds_of_onGrid? {s : Scaled} (h : i.onGrid? scale = some s) : i.Holds s.toRat := by
  obtain ⟨nearer, hcases⟩ := i.onGrid?_eq scale
  rw [hcases] at h
  split at h
  · rename_i hdown hup
    split at h
    · exact Option.some.inj h ▸ (i.inside_iff scale _).mp hdown
    · exact Option.some.inj h ▸ (i.inside_iff scale _).mp hup
  · rename_i hdown hup
    exact Option.some.inj h ▸ (i.inside_iff scale _).mp hdown
  · rename_i hdown hup
    exact Option.some.inj h ▸ (i.inside_iff scale _).mp hup
  · cases h

/-- What lies between the ends belongs to the interval. -/
theorem holds_of_lt {r : ℚ} (hlow : i.low * 2 ^ i.exponent < r)
    (hhigh : r < i.high * 2 ^ i.exponent) : i.Holds r := by
  unfold Holds
  split
  · exact ⟨hlow.le, hhigh.le⟩
  · exact ⟨hlow, hhigh⟩

/-- On a grid finer than the interval is wide, one of the value's neighbours lies in the interval:
if the lower one is not above the low end, the upper one is not a whole step above that end. -/
theorem inside_below_or_succ (hlow : i.low ≤ i.value) (hhigh : i.value < i.high)
    (hfine : (10 : ℚ) ^ scale < (i.high - i.low) * 2 ^ i.exponent) :
    i.inside scale (i.below scale) = true ∨ i.inside scale (i.below scale + 1) = true := by
  have hdown := i.below_le scale
  have hup := i.lt_below_succ scale
  have hlowValue : (i.low : ℚ) * 2 ^ i.exponent ≤ i.value * 2 ^ i.exponent := by gcongr
  have hvalueHigh : (i.value : ℚ) * 2 ^ i.exponent < i.high * 2 ^ i.exponent := by gcongr
  simp only [inside_iff]
  by_cases hout : (i.below scale : ℚ) * 10 ^ scale ≤ i.low * 2 ^ i.exponent
  · have hstep : Scaled.toRat ⟨i.below scale + 1, scale⟩
        = i.below scale * 10 ^ scale + 10 ^ scale := by
      simp only [Scaled.toRat]
      push_cast
      ring
    refine Or.inr (holds_of_lt (hlowValue.trans_lt hup) ?_)
    rw [sub_mul] at hfine
    linarith
  · exact Or.inl (holds_of_lt (lt_of_not_ge hout) (hdown.trans_lt hvalueHigh))

/-- A grid that is finer than the interval is wide has a number in it. -/
theorem onGrid?_isSome (hlow : i.low ≤ i.value) (hhigh : i.value < i.high)
    (hfine : (10 : ℚ) ^ scale < (i.high - i.low) * 2 ^ i.exponent) :
    (i.onGrid? scale).isSome = true := by
  obtain ⟨nearer, hcases⟩ := i.onGrid?_eq scale
  rw [hcases]
  rcases inside_below_or_succ hlow hhigh hfine with h | h
  · rw [h]
    split <;> [split <;> rfl; rfl; contradiction; contradiction]
  · rw [h]
    split <;> [split <;> rfl; contradiction; rfl; contradiction]

end Interval

/-! ## One interval for each double -/

/-- Significand and exponent as they come from the bits of a double other than zero: at most
fifty-three bits, and all of them but at the least exponent. -/
structure IsMagnitude (m : ℕ) (q : ℤ) : Prop where
  pos : 0 < m
  lt : m < 2 * Binary64.hiddenBit
  least : -1074 ≤ q
  full : -1074 < q → Binary64.hiddenBit ≤ m

/-- The bits of a double other than zero give a magnitude. -/
theorem isMagnitude (x : Binary64) (hx : x.isZero = false) :
    IsMagnitude x.magnitude.1 x.magnitude.2 := by
  have hfraction : x.fractionField < Binary64.hiddenBit := Nat.mod_lt _ (by decide)
  have hzero : x.exponentField = 0 → x.fractionField ≠ 0 := by
    intro hexponent hnone
    simp [Binary64.isZero, hexponent, hnone] at hx
  unfold Binary64.magnitude
  split
  · rename_i hexponent
    have := hzero hexponent
    exact ⟨by omega, by omega, le_rfl, by omega⟩
  · exact ⟨by unfold Binary64.hiddenBit; omega, by omega, by omega, by omega⟩

variable {m n : ℕ} {p q : ℤ} {r : ℚ}

/-- A number of the interval is not above its upper end, and below it if it is open. -/
theorem Interval.Holds.le_high {i : Interval} (h : i.Holds r) :
    r ≤ i.high * 2 ^ i.exponent ∧ (i.closed = false → r < i.high * 2 ^ i.exponent) := by
  unfold Holds at h
  split at h
  · rename_i hclosed
    exact ⟨h.2, fun hopen => absurd hclosed (by simp [hopen])⟩
  · exact ⟨h.2.le, fun _ => h.2⟩

/-- A number of the interval is not below its lower end, and above it if it is open. -/
theorem Interval.Holds.low_le {i : Interval} (h : i.Holds r) :
    i.low * 2 ^ i.exponent ≤ r ∧ (i.closed = false → i.low * 2 ^ i.exponent < r) := by
  unfold Holds at h
  split at h
  · rename_i hclosed
    exact ⟨h.1, fun hopen => absurd hclosed (by simp [hopen])⟩
  · exact ⟨h.1.le, fun _ => h.1⟩

/-- The interval of a smaller double ends where that of a larger one begins, or before; with
one exponent the significands then follow each other, with two the smaller is all ones. -/
theorem ends_le (hm : IsMagnitude m p) (hn : IsMagnitude n q) (hlt : p < q ∨ p = q ∧ m < n) :
    ∃ k : ℕ, (k : ℚ) * 2 ^ (p - 2) ≤ 2 ^ (q - 2) ∧
      (Interval.around m p).high ≤ k * (Interval.around n q).low ∧
      ((Interval.around m p).high < k * (Interval.around n q).low
        ∨ (Interval.around m p).closed = false ∨ (Interval.around n q).closed = false) := by
  obtain ⟨hposm, hltm, hleastm, hfullm⟩ := hm
  obtain ⟨hposn, hltn, hleastn, hfulln⟩ := hn
  simp only [Interval.around, beq_eq_false_iff_ne]
  unfold Binary64.hiddenBit at *
  rcases hlt with hlt | ⟨rfl, hlt⟩
  · refine ⟨2, ?_, ?_, ?_⟩
    · calc ((2 : ℕ) : ℚ) * 2 ^ (p - 2) = 2 ^ (p - 2 + 1) := by
            rw [zpow_add_one₀ two_ne_zero, mul_comm]
            rfl
        _ ≤ 2 ^ (q - 2) := zpow_le_zpow_right₀ one_le_two (by omega)
    · split <;> omega
    · split <;> omega
  · refine ⟨1, by simp, ?_, ?_⟩
    · split <;> omega
    · split <;> omega

/-- The intervals of a smaller magnitude and a larger one have no number in common. -/
theorem apart_of_lt (hm : IsMagnitude m p) (hn : IsMagnitude n q) (hlt : p < q ∨ p = q ∧ m < n)
    (hleft : (Interval.around m p).Holds r) : ¬(Interval.around n q).Holds r := by
  intro hright
  obtain ⟨k, hk, hends, hopen⟩ := ends_le hm hn hlt
  obtain ⟨hle, hltOpen⟩ := hleft.le_high
  obtain ⟨hge, hgtOpen⟩ := hright.low_le
  have hunit : (0 : ℚ) < 2 ^ (p - 2) := by positivity
  have hgap : (k : ℚ) * (Interval.around n q).low * 2 ^ (p - 2)
      ≤ (Interval.around n q).low * 2 ^ (q - 2) := by
    calc (k : ℚ) * (Interval.around n q).low * 2 ^ (p - 2)
        = (Interval.around n q).low * (k * 2 ^ (p - 2)) := by ring
      _ ≤ (Interval.around n q).low * 2 ^ (q - 2) := by gcongr
  have hmeet : ((Interval.around m p).high : ℚ) * 2 ^ (p - 2)
      ≤ k * (Interval.around n q).low * 2 ^ (p - 2) := by
    have : ((Interval.around m p).high : ℚ) ≤ k * (Interval.around n q).low := by
      exact_mod_cast hends
    gcongr
  rcases hopen with hstrict | hopen | hopen
  · have : ((Interval.around m p).high : ℚ) < k * (Interval.around n q).low := by
      exact_mod_cast hstrict
    have hbetween := mul_lt_mul_of_pos_right this hunit
    exact absurd (hle.trans_lt (hbetween.trans_le (hgap.trans hge))) (lt_irrefl r)
  · exact absurd ((hltOpen hopen).trans_le (hmeet.trans (hgap.trans hge))) (lt_irrefl r)
  · exact absurd ((hle.trans (hmeet.trans hgap)).trans_lt (hgtOpen hopen)) (lt_irrefl r)

/-- A number belongs to the interval of one magnitude only. -/
theorem around_unique (hm : IsMagnitude m p) (hn : IsMagnitude n q)
    (hleft : (Interval.around m p).Holds r) (hright : (Interval.around n q).Holds r) :
    m = n ∧ p = q := by
  rcases lt_trichotomy p q with hlt | rfl | hgt
  · exact absurd hright (apart_of_lt hm hn (Or.inl hlt) hleft)
  · rcases lt_trichotomy m n with hlt | rfl | hgt
    · exact absurd hright (apart_of_lt hm hn (Or.inr ⟨rfl, hlt⟩) hleft)
    · exact ⟨rfl, rfl⟩
    · exact absurd hleft (apart_of_lt hn hm (Or.inr ⟨rfl, hgt⟩) hright)
  · exact absurd hleft (apart_of_lt hn hm (Or.inl hgt) hright)

/-- A magnitude tells the fields of exponent and fraction. -/
theorem fields_of_magnitude {x y : Binary64} (h : x.magnitude = y.magnitude) :
    x.exponentField = y.exponentField ∧ x.fractionField = y.fractionField := by
  have hx : x.fractionField < Binary64.hiddenBit := Nat.mod_lt _ (by decide)
  have hy : y.fractionField < Binary64.hiddenBit := Nat.mod_lt _ (by decide)
  unfold Binary64.magnitude at h
  split at h <;> split at h <;> rw [Prod.mk.injEq] at h <;> omega

/-- A double is what its sign, significand and exponent say. -/
theorem eq_of_magnitude {x y : Binary64} (hsign : x.isNegative = y.isNegative)
    (hmagnitude : x.magnitude = y.magnitude) : x = y := by
  obtain ⟨hexponent, hfraction⟩ := fields_of_magnitude hmagnitude
  have hx := x.bits.toNat_lt
  have hy := y.bits.toNat_lt
  have hbits : x.bits.toNat = y.bits.toNat := by
    simp only [Binary64.isNegative, decide_eq_decide] at hsign
    simp only [Binary64.exponentField, Binary64.fractionField, Binary64.hiddenBit]
      at hexponent hfraction
    omega
  cases x
  cases y
  exact congrArg Binary64.mk (UInt64.toNat_inj.mp hbits)

/-! ## The shortest decimal -/

/-- Zeros at the end are taken off without changing the number. -/
theorem toRat_strip (bound : ℕ) (s : Scaled) : (s.strip bound).toRat = s.toRat := by
  induction bound generalizing s with
  | zero => rfl
  | succ bound ih =>
      unfold Scaled.strip
      split
      · rename_i hzero
        obtain ⟨d, hd⟩ : ∃ d, s.digits = d * 10 := ⟨s.digits / 10, by omega⟩
        rw [ih]
        simp only [Scaled.toRat, hd, Nat.mul_div_cancel d (show 0 < 10 by decide)]
        rw [zpow_add_one₀ (by norm_num)]
        push_cast
        ring
      · rfl

/-- With seventeen digits the grid is finer than the interval is wide. -/
theorem fine_of_lead (hm : IsMagnitude m q) {lead : ℤ} (hlead : (10 : ℚ) ^ lead ≤ m * 2 ^ q) :
    (10 : ℚ) ^ (lead - 16) < ((Interval.around m q).high - (Interval.around m q).low)
      * 2 ^ (Interval.around m q).exponent := by
  obtain ⟨hpos, hlt, -, -⟩ := hm
  have hwidth : ∃ width : ℕ, (Interval.around m q).low + width = (Interval.around m q).high
      ∧ 4 * m < width * 10 ^ 16 := by
    simp only [Interval.around]
    unfold Binary64.hiddenBit at *
    split
    · exact ⟨3, by omega, by omega⟩
    · exact ⟨4, by omega, by omega⟩
  obtain ⟨width, hends, hdigits⟩ := hwidth
  have hspan : ((Interval.around m q).high : ℚ) - (Interval.around m q).low = width := by
    rw [← hends]
    push_cast
    ring
  have hunit : (2 : ℚ) ^ q = 4 * 2 ^ (q - 2) := by
    rw [zpow_sub₀ two_ne_zero]
    norm_num
    ring
  have hbound : (4 : ℚ) * m < width * 10 ^ 16 := by exact_mod_cast hdigits
  rw [hspan, zpow_sub₀ (by norm_num), div_lt_iff₀ (by positivity)]
  calc (10 : ℚ) ^ lead ≤ m * 2 ^ q := hlead
    _ = 4 * m * 2 ^ (q - 2) := by rw [hunit]; ring
    _ < width * 10 ^ 16 * 2 ^ (q - 2) := mul_lt_mul_of_pos_right hbound (by positivity)
    _ = width * 2 ^ (q - 2) * 10 ^ (16 : ℤ) := by norm_num; ring

/-- The shortest decimal lies in the interval of its double. -/
theorem shortest_holds {x : Binary64} (hx : x.isZero = false) :
    (Interval.around x.magnitude.1 x.magnitude.2).Holds (shortest x).toRat := by
  have hm := isMagnitude x hx
  set m := x.magnitude.1 with hmdef
  set q := x.magnitude.2 with hqdef
  set lead := leadingExponent (m * (powRatio 2 q).1) (powRatio 2 q).2 with hleaddef
  have hshortest : shortest x = (((List.range 17).findSome? fun (n : ℕ) =>
      (Interval.around m q).onGrid? (lead - n)).getD ⟨0, 0⟩).strip 20 := rfl
  rw [hshortest, toRat_strip]
  cases hfound : (List.range 17).findSome? fun (n : ℕ) =>
      (Interval.around m q).onGrid? (lead - n) with
  | some s =>
      obtain ⟨n, -, hn⟩ := List.exists_of_findSome?_eq_some hfound
      exact Interval.holds_of_onGrid? hn
  | none =>
      have hlast := List.findSome?_eq_none_iff.mp hfound 16 (by decide)
      have hlead : (10 : ℚ) ^ lead ≤ m * 2 ^ q := by
        obtain ⟨hnum, hden⟩ := powRatio_pos (show 0 < 2 by decide) q
        have h := pow_leadingExponent_le (Nat.mul_pos hm.pos hnum) hden
        have hdenPos : (0 : ℚ) < (powRatio 2 q).2 := by exact_mod_cast hden
        rw [Nat.cast_mul, powRatio_eq (by decide), ← mul_assoc] at h
        exact le_of_mul_le_mul_right h hdenPos
      have hsome : ((Interval.around m q).onGrid? (lead - 16)).isSome = true :=
        Interval.onGrid?_isSome (by simp only [Interval.around]; split <;> omega)
          (by simp only [Interval.around]; omega) (fine_of_lead hm hlead)
      rw [show ((16 : ℕ) : ℤ) = 16 from rfl] at hlast
      rw [hlast] at hsome
      cases hsome

end QueryCache.Decimal
