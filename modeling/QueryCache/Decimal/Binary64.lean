/-!
# Double-precision numbers

A number that is no 64-bit integer is held as a double: sixty-four bits, of which one is
the sign, eleven the exponent and fifty-two the fraction.  Keeping the bits rather than a
machine float makes equality of numbers decidable and lets the digits be found by exact
arithmetic on naturals.

`magnitude` decodes a finite double into `m` and `q` with value `m * 2 ^ q`.  `same` is
numeric equality, under which the two zeros agree; equality of the structure itself tells
them apart.
-/

namespace QueryCache

/-- A double, as its bit pattern. -/
structure Binary64 where
  bits : UInt64
deriving DecidableEq, Repr

namespace Binary64

/-- The machine number with these bits. -/
def toFloat (x : Binary64) : Float := Float.ofBits x.bits

/-- The bits of a machine number. -/
def ofFloat (f : Float) : Binary64 := ⟨f.toBits⟩

def isNegative (x : Binary64) : Bool := x.bits.toNat ≥ 0x8000000000000000

/-- The leading bit of a normal number, which its pattern does not hold. -/
def hiddenBit : Nat := 0x10000000000000

/-- The exponent field, before its bias is taken off. -/
def exponentField (x : Binary64) : Nat := x.bits.toNat / hiddenBit % 2048

def fractionField (x : Binary64) : Nat := x.bits.toNat % hiddenBit

def isFinite (x : Binary64) : Bool := x.exponentField != 2047

def isZero (x : Binary64) : Bool := x.exponentField == 0 && x.fractionField == 0

/-- A finite double without its sign, as `m * 2 ^ q`.  Below the least normal number the
leading bit is no longer implied. -/
def magnitude (x : Binary64) : Nat × Int :=
  if x.exponentField = 0 then (x.fractionField, -1074)
  else (x.fractionField + hiddenBit, (x.exponentField : Int) - 1075)

/-- Numeric equality of finite doubles: the same bits, or both zero. -/
def same (x y : Binary64) : Bool := x == y || (x.isZero && y.isZero)

/-- The negated number: only the sign bit changes. -/
def neg (x : Binary64) : Binary64 := ⟨x.bits ^^^ 0x8000000000000000⟩

def zero : Binary64 := ⟨0⟩

end Binary64

end QueryCache
