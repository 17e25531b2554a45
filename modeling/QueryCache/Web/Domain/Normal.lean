import QueryCache.Web.Domain.Composition
/-!
# The composed form

A text may write a letter with a mark as one character or as two.  In the composed form all
marks are put in the order of their classes and every letter takes up the marks that it can, so
texts that are written alike have one form.

A mark is taken up by the last character before it that is no mark, unless another mark of its
class, or of a greater one, stands between them.
-/

namespace QueryCache.Web.Domain

/-- The class of a mark; all else has the class zero. -/
def markClass (n : Nat) : Nat := ((markClasses.value? n).bind List.head?).getD 0

/-! ## Syllables of Hangul -/

/-- A syllable is a consonant, a vowel and perhaps a final consonant; each has its own run. -/
def leads : Nat := 0x1100
def vowels : Nat := 0x1161
def finals : Nat := 0x11A7
def syllables : Nat := 0xAC00

/-- The parts of a syllable. -/
def syllableParts? (n : Nat) : Option (List Nat) :=
  if syllables ≤ n ∧ n < syllables + 19 * 21 * 28 then
    let index := n - syllables
    let open_ := [leads + index / 588, vowels + index % 588 / 28]
    some (if index % 28 = 0 then open_ else open_ ++ [finals + index % 28])
  else none

/-- The syllable that two characters make up. -/
def syllableOf? (a b : Nat) : Option Nat :=
  if leads ≤ a ∧ a < leads + 19 ∧ vowels ≤ b ∧ b < vowels + 21 then
    some (syllables + ((a - leads) * 21 + (b - vowels)) * 28)
  else if syllables ≤ a ∧ a < syllables + 19 * 21 * 28 ∧ (a - syllables) % 28 = 0
      ∧ finals < b ∧ b < finals + 28 then
    some (a + (b - finals))
  else none

/-! ## Taking apart -/

/-- The parts of a character; a part may have parts in turn, to a small depth. -/
def partsOf : (depth : Nat) → Nat → List Nat
  | 0, n => [n]
  | depth + 1, n => match syllableParts? n, composed.value? n with
    | some parts, _ => parts
    | none, some parts => parts.flatMap (partsOf depth)
    | none, none => [n]

/-- How deep parts stand within parts at most. -/
def partDepth : Nat := 4

/-- Puts a mark among those that stand before it, the latest first. -/
def insertMark (n : Nat) : List Nat → List Nat
  | [] => [n]
  | m :: before =>
    if markClass n < markClass m then m :: insertMark n before else n :: m :: before

/-- Puts marks in order; the latest character comes first in what has been read. -/
def orderMarks (read : List Nat) : List Nat → List Nat
  | [] => read.reverse
  | n :: rest => orderMarks (if markClass n = 0 then n :: read else insertMark n read) rest

/-! ## Putting together -/

/-- The character that two make up. -/
def composite? (a b : Nat) : Option Nat :=
  match syllableOf? a b with
  | some n => some n
  | none => (Array.find? (fun e : Entry => e.value == [a, b]) composed).map (·.first)

/-- Goes through a text in order.  `base` is the last character that was no mark, and `marks`
those after it that it did not take up, the latest first. -/
def compose (done : List Nat) (base : Option Nat) (marks : List Nat) : List Nat → List Nat
  | [] => (marks ++ base.toList ++ done).reverse
  | n :: rest =>
    let isFree := match marks with
      | [] => true
      | m :: _ => markClass m < markClass n
    match (base.filter fun _ => isFree).bind (composite? · n) with
    | some both => compose done (some both) marks rest
    | none =>
      if markClass n = 0 then compose (marks ++ base.toList ++ done) (some n) [] rest
      else compose done base (n :: marks) rest

/-- The composed form of a text. -/
def normal (ns : List Nat) : List Nat :=
  compose [] none [] (orderMarks [] (ns.flatMap (partsOf partDepth)))

end QueryCache.Web.Domain
