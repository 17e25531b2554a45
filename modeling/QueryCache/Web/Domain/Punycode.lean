/-!
# Labels in letters of ASCII

A label that holds other characters can be written in letters, digits and hyphens.  Its ASCII
characters come first, with a hyphen after them if there are any.  Then numbers say where the
others are inserted, in ascending order of code points: each number counts how many other
insertions come between one and the next.

A number is written with its smallest digit first.  From the threshold of a place on, a digit
says that another one follows; the thresholds adapt to the numbers so far.  A number that does
not fit thirty-two bits is refused.
-/

namespace QueryCache.Web.Domain.Punycode

/-- The value of a digit: letters count from zero, numerals from twenty-six. -/
def digit? (c : Char) : Option Nat :=
  if 'a' ≤ c ∧ c ≤ 'z' then some (c.toNat - 97)
  else if 'A' ≤ c ∧ c ≤ 'Z' then some (c.toNat - 65)
  else if '0' ≤ c ∧ c ≤ '9' then some (c.toNat - 22)
  else none

/-- From which digit on another one follows, at a place that counts up by 36. -/
def threshold (place bias : Nat) : Nat := max 1 (min 26 (place - bias))

/-- Divides by 35 until little is left, counting up the bias. -/
def settle (delta bias : Nat) : Nat :=
  if delta > 455 then settle (delta / 35) (bias + 36) else bias + 36 * delta / (delta + 38)
termination_by delta

/-- The bias after an insertion that makes up a text of so many characters. -/
def adapt (delta length : Nat) (isFirst : Bool) : Nat :=
  let delta := if isFirst then delta / 700 else delta / 2
  settle (delta + delta / length) 0

/-- The largest number that is written. -/
def largest : Nat := 0xFFFFFFFF

/-- Reads one number, which is added to the sum so far. -/
def readNumber? (bias : Nat) : (sum weight place : Nat) → List Char → Option (Nat × List Char)
  | _, _, _, [] => none
  | sum, weight, place, c :: rest => do
    let d ← digit? c
    let sum := sum + d * weight
    let t := threshold place bias
    if sum > largest then none
    else if d < t then some (sum, rest)
    else if weight * (36 - t) > largest then none
    else readNumber? bias sum (weight * (36 - t)) (place + 36) rest

/-- Inserts characters as the numbers say, the first of them a code point no smaller than `next`. -/
def insertAll? : (bound next index bias : Nat) → (text : List Char) → List Char →
    Option (List Char)
  | 0, _, _, _, _, _ => none
  | _ + 1, _, _, _, text, [] => some text
  | bound + 1, next, index, bias, text, cs => do
    let (sum, rest) ← readNumber? bias index 1 36 cs
    let length := text.length + 1
    let next := next + sum / length
    let place := sum % length
    if next.isValidChar then
      insertAll? bound next (place + 1) (adapt (sum - index) length (index == 0))
        (text.take place ++ Char.ofNat next :: text.drop place) rest
    else none

/-- The longest text that is decoded. -/
def longest : Nat := 2000

/-- The text that is written so, after the mark that says that it is. -/
def decode? (cs : List Char) : Option (List Char) :=
  if cs.length > longest then none
  else
    let numbers := (cs.reverse.takeWhile (· != '-')).reverse
    let plain := cs.take (cs.length - numbers.length - 1)
    if plain = [] then insertAll? (cs.length + 1) 128 0 72 [] cs
    else insertAll? (numbers.length + 1) 128 0 72 plain numbers

end QueryCache.Web.Domain.Punycode
