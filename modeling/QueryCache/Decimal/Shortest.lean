import QueryCache.Decimal.Binary64
/-!
# The fewest digits that read back

A double stands for every real number that rounds to it, an interval around its value.
Its decimal text takes the fewest digits with which some decimal lies in that interval,
and of those decimals the one nearest to the value.

The search is exact.  With `n` digits the candidates are the two neighbours of the value
on the grid of that many digits; the first `n` for which one of them lies in the interval
wins.  Seventeen digits always suffice.  Everything is scaled by four, so that the ends of
the interval, which lie half a unit (or a quarter, just above a power of two) from the
value, are whole numbers too.
-/

namespace QueryCache.Decimal

/-- The decimal `digits * 10 ^ scale`. -/
structure Scaled where
  digits : Nat
  scale : Int
deriving DecidableEq, Repr

/-- How many decimal digits a natural number has; zero has one. -/
def digitCount (n : Nat) : Nat := (Nat.toDigits 10 n).length

/-- The interval of a double, scaled: its ends and its value in units of `2 ^ exponent`,
and whether the ends belong to it. -/
structure Interval where
  low : Nat
  value : Nat
  high : Nat
  exponent : Int
  closed : Bool
deriving DecidableEq, Repr

/-- The reals that round to `m * 2 ^ q`.  Ties go to the even neighbour, so the ends belong
to the interval exactly when `m` is even. -/
def Interval.around (m : Nat) (q : Int) : Interval where
  low := if m = Binary64.hiddenBit ∧ q > -1074 then 4 * m - 1 else 4 * m - 2
  value := 4 * m
  high := 4 * m + 2
  exponent := q - 2
  closed := m % 2 == 0

/-- The exponent of the leading decimal digit of `num / den`, both positive. -/
def leadingExponent (num den : Nat) : Int :=
  if den ≤ num then digitCount (num / den) - 1
  else -(digitCount ((den + num - 1) / num - 1) : Int)

/-- A power of a base with any exponent, as numerator and denominator. -/
def powRatio (base : Nat) (e : Int) : Nat × Nat :=
  if e ≥ 0 then (base.pow e.toNat, 1) else (1, base.pow (-e).toNat)

/-- A unit of the interval and a step of the grid `10 ^ scale`, in one measure: `x` units equal
`y` steps when `x * unit = y * step`. -/
def Interval.measures (i : Interval) (scale : Int) : Nat × Nat :=
  let (a, b) := powRatio 2 i.exponent
  let (c, d) := powRatio 10 scale
  (a * d, c * b)

/-- The grid's last number up to the value. -/
def Interval.below (i : Interval) (scale : Int) : Nat :=
  let (unit, step) := i.measures scale
  i.value * unit / step

/-- A number of the grid lies in the interval. -/
def Interval.inside (i : Interval) (scale : Int) (n : Nat) : Bool :=
  let (unit, step) := i.measures scale
  if i.closed then i.low * unit ≤ n * step && n * step ≤ i.high * unit
  else i.low * unit < n * step && n * step < i.high * unit

/-- The best decimal on the grid `10 ^ scale`, if one of the value's neighbours there lies
in the interval. -/
def Interval.onGrid? (i : Interval) (scale : Int) : Option Scaled :=
  let (unit, step) := i.measures scale
  let below := i.below scale
  let down := i.value * unit - below * step
  let up := (below + 1) * step - i.value * unit
  match i.inside scale below, i.inside scale (below + 1) with
  | true, true =>
    if down < up || (down == up && below % 2 == 0) then some ⟨below, scale⟩
    else some ⟨below + 1, scale⟩
  | true, false => some ⟨below, scale⟩
  | false, true => some ⟨below + 1, scale⟩
  | false, false => none

/-- Drops zeros at the end of the digits; `bound` is at least the number of digits. -/
def Scaled.strip : Nat → Scaled → Scaled
  | 0, s => s
  | bound + 1, s =>
    if s.digits ≠ 0 ∧ s.digits % 10 = 0 then Scaled.strip bound ⟨s.digits / 10, s.scale + 1⟩
    else s

/-- The shortest decimal of a finite double other than zero, without its sign. -/
def shortest (x : Binary64) : Scaled :=
  let (m, q) := x.magnitude
  let i := Interval.around m q
  let (a, b) := powRatio 2 q
  let lead := leadingExponent (m * a) b
  let found := (List.range 17).findSome? fun (n : Nat) => i.onGrid? (lead - n)
  (found.getD ⟨0, 0⟩).strip 20

/-- The text of a decimal.  If its leading digit stands for `10 ^ e` with `e` from -5 to 15 it is
written out and always has a fraction; any other has one digit before the point and a signed
exponent. -/
def layout (s : Scaled) : List Char :=
  let digits := Nat.toDigits 10 s.digits
  let e : Int := s.scale + digits.length - 1
  let zeros (n : Nat) := List.replicate n '0'
  if 0 ≤ e ∧ e ≤ 15 then
    let whole := e.toNat + 1
    if digits.length ≤ whole then digits ++ zeros (whole - digits.length) ++ ['.', '0']
    else digits.take whole ++ '.' :: digits.drop whole
  else if -5 ≤ e ∧ e < 0 then '0' :: '.' :: zeros ((-e).toNat - 1) ++ digits
  else
    let mantissa := match digits with
      | [d] => [d]
      | d :: rest => d :: '.' :: rest
      | [] => []
    mantissa ++ 'e' :: (if e < 0 then '-' else '+') :: Nat.toDigits 10 e.natAbs

/-- The text of a finite double. -/
def text (x : Binary64) : String :=
  let sign := if x.isNegative then "-" else ""
  if x.isZero then sign ++ "0.0" else sign ++ String.ofList (layout (shortest x))

end QueryCache.Decimal
