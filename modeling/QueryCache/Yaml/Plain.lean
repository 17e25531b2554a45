import QueryCache.Json.Basic
import QueryCache.Text.Hex
/-!
# What plain scalars mean

Where any value will do, a plain scalar is a null, a truth value or a number if it looks like
one, and a text otherwise.  Integers may be written in four bases.  One that fits neither range
of sixty-four bits is refused, unless it does not fit twice as many bits either: then it is read
as a decimal.
-/

namespace QueryCache.Yaml

def isNullWord (s : String) : Bool := ["~", "null", "Null", "NULL"].contains s

def isNullText (s : String) : Bool := s = "" || isNullWord s

def boolOfText? (s : String) : Option Bool :=
  if ["true", "True", "TRUE"].contains s then some true
  else if ["false", "False", "FALSE"].contains s then some false
  else none

/-! ## Integers -/

/-- The value of a numeral that has at least one digit. -/
def numeral? (base : Nat) (digits : List Char) : Option Nat :=
  if digits = [] then none
  else digits.foldlM (fun n c => do
    let d ← Text.hexValue? c
    if d < base then some (n * base + d) else none) 0

/-- Digits after a leading zero are not taken for a number. -/
def isZeroPadded (digits : List Char) : Bool :=
  digits.length > 1 && digits.head? == some '0' && digits.all Char.isDigit

/-- The natural number that digits denote, with a prefix for other bases than ten. -/
def naturalOfDigits? (digits : List Char) : Option Nat :=
  match digits with
  | '0' :: 'x' :: rest => numeral? 16 rest
  | '0' :: 'o' :: rest => numeral? 8 rest
  | '0' :: 'b' :: rest => numeral? 2 rest
  | _ => if isZeroPadded digits then none else numeral? 10 digits

/-- The natural number that a text denotes; it may have a plus sign. -/
def naturalOfText? (s : String) : Option Nat :=
  match s.toList with
  | '+' :: digits => naturalOfDigits? digits
  | digits => naturalOfDigits? digits

/-- The integer that a text denotes. -/
def integerOfText? (s : String) : Option Int :=
  match s.toList with
  | '-' :: digits => (naturalOfDigits? digits).map fun n => -(n : Int)
  | _ => (naturalOfText? s).map Int.ofNat

/-- An integer as a JSON value; one that fits neither range of sixty-four bits is none. -/
def jsonOfInteger? (n : Int) : Option Json :=
  if -0x8000000000000000 ≤ n ∧ n ≤ 0xFFFFFFFFFFFFFFFF then some (.num (.int n)) else none

/-- Integers beyond this size are read as decimals. -/
def isHuge (n : Int) : Bool :=
  n > 0xFFFFFFFFFFFFFFFFFFFFFFFFFFFFFFFF || n < -0x80000000000000000000000000000000

/-! ## Decimals -/

/-- The double nearest to a decimal, unless that is infinite. -/
def nearestDouble? (negative : Bool) (digits : List Char) (exponent : Int) : Option Binary64 :=
  let significand := digits.foldl (fun n c => n * 10 + (c.toNat - 48)) 0
  -- the place of the leading digit, above or below which there is no finite double but zero
  let magnitude := ((digits.dropWhile (· == '0')).length : Int) + exponent
  let size? : Option Float :=
    if significand = 0 ∨ magnitude < -400 then some 0
    else if magnitude > 400 then none
    else some (Float.ofScientific significand (exponent < 0) exponent.natAbs)
  (size?.map Binary64.ofFloat).bind fun x =>
    if x.isFinite then some (if negative then x.neg else x) else none

/-- The exponent part of a decimal: nothing, or a mark, perhaps a sign, and digits. -/
def exponentOf? : List Char → Option Int
  | [] => some 0
  | mark :: rest =>
    if mark = 'e' ∨ mark = 'E' then match rest with
      | '-' :: digits => (numeral? 10 digits).map fun n => -(n : Int)
      | '+' :: digits => (numeral? 10 digits).map Int.ofNat
      | digits => (numeral? 10 digits).map Int.ofNat
    else none

/-- The double that an unsigned decimal denotes: digits with at most one point among them, and
perhaps an exponent. -/
def unsignedDecimal? (negative : Bool) (cs : List Char) : Option Binary64 := do
  let whole := cs.takeWhile Char.isDigit
  let afterWhole := cs.dropWhile Char.isDigit
  let (fraction, rest) := match afterWhole with
    | '.' :: rest => (rest.takeWhile Char.isDigit, rest.dropWhile Char.isDigit)
    | rest => ([], rest)
  if whole = [] ∧ fraction = [] then none
  else
    let exponent ← exponentOf? rest
    nearestDouble? negative (whole ++ fraction) (exponent - fraction.length)

/-- What a plain scalar says of a number that is no integer. -/
inductive Decimal where
  | finite (x : Binary64)
  /-- Infinite, or not a number. -/
  | beyond

/-- The decimal that a text denotes. -/
def decimalOfText? (s : String) : Option Decimal :=
  if [".inf", ".Inf", ".INF", "+.inf", "+.Inf", "+.INF", "-.inf", "-.Inf", "-.INF",
      ".nan", ".NaN", ".NAN"].contains s then some .beyond
  else match s.toList with
    | '-' :: cs => (unsignedDecimal? true cs).map .finite
    | '+' :: cs => (unsignedDecimal? false cs).map .finite
    | cs => (unsignedDecimal? false cs).map .finite

/-- JSON has no numbers that are not finite. -/
def Decimal.toJson : Decimal → Json
  | finite x => .num (.float x)
  | beyond => .null

/-- Whether a text is made up of digits after a leading zero, and perhaps a sign. -/
def isPaddedText (s : String) : Bool :=
  match s.toList with
  | '-' :: cs | '+' :: cs => isZeroPadded cs
  | cs => isZeroPadded cs

/-! ## Values -/

/-- The value that a plain scalar denotes. -/
def jsonOfPlain? (s : String) : Option Json :=
  if isNullText s then some .null
  else match boolOfText? s with
    | some b => some (.bool b)
    | none => match (integerOfText? s).filter fun n => !isHuge n with
      | some n => jsonOfInteger? n
      | none => match decimalOfText? s with
        | some d => some (if isPaddedText s then .str s else d.toJson)
        | none => some (.str s)

end QueryCache.Yaml
