import QueryCache.Web.Domain.Direction
import QueryCache.Web.Domain.Folding
import QueryCache.Web.Domain.Joining
import QueryCache.Web.Domain.Normal
import QueryCache.Web.Domain.Punycode
import QueryCache.Web.Domain.Refused
/-!
# Labels of a domain

A domain is made up of labels with dots between them.  In any script but ASCII they are folded
and composed; a label that says that it is an encoded one must decode to what it could have been
written as, and to something that ASCII cannot express.

No label begins with a mark.  The two characters that govern how letters join stand only where
they have an effect.  If anything in a domain is written from right to left, each label is
written in one direction: it begins with a letter, holds only what goes along with it, and ends
with a letter or a number.  Within a label from right to left there are digits of one kind only.
-/

namespace QueryCache.Web.Domain

def isAscii (cs : List Char) : Bool := cs.all fun c => c.toNat < 0x80

/-- The folded and composed form of a text, unless some character is refused. -/
def folded? (cs : List Char) : Option (List Char) := do
  if cs.any fun c => refused.holds c.toNat then none
  let ns := cs.flatMap fun c => (folded.value? c.toNat).getD [c.toNat]
  pure ((normal ns).map Char.ofNat)

/-- Whether a text is its own folded and composed form. -/
def isFolded (cs : List Char) : Bool :=
  cs.all (fun c => !refused.holds c.toNat && (folded.find? c.toNat).isNone)
    && normal (cs.map Char.toNat) == cs.map Char.toNat

/-! ## Encoded labels -/

/-- How an encoded label begins. -/
def encodedMark : List Char := "xn--".toList

/-- The label itself, or the one that it encodes. -/
def decoded? (label : List Char) : Option (List Char) :=
  if encodedMark.isPrefixOf label then do
    let text ← Punycode.decode? (label.drop encodedMark.length)
    if !isAscii label ∨ isAscii text ∨ !isFolded text ∨ encodedMark.isPrefixOf text then none
    pure text
  else some label

/-! ## Joining -/

/-- Whether the first letter of a text, marks apart, has a property. -/
def reaches (joins : Nat → Bool) : List Nat → Bool
  | [] => false
  | n :: rest => joins n || (transparent.holds n && reaches joins rest)

/-- The class of the marks that join two letters in the scripts of India. -/
def viramaClass : Nat := 9

/-- Whether a joiner may stand between the letters before it, the latest first, and those after
it.  One that keeps letters apart stands also between two that would join. -/
def mayJoin (isSeparating : Bool) (before after : List Nat) : Bool :=
  match before with
  | [] => false
  | n :: _ =>
    markClass n == viramaClass
      || (isSeparating
        && reaches (fun m => leftJoining.holds m || dualJoining.holds m) before
        && reaches (fun m => rightJoining.holds m || dualJoining.holds m) after)

/-- Whether every joiner of a label may stand where it does. -/
def joinersFit (before : List Nat) : List Nat → Bool
  | [] => true
  | n :: rest =>
    (if n = 0x200C then mayJoin true before rest
      else if n = 0x200D then mayJoin false before rest
      else true)
    && joinersFit (n :: before) rest

/-! ## Directions -/

inductive Direction where
  | left
  | right
  | arabicNumber
  | europeanNumber
  | neutral
  | nonspacing
deriving DecidableEq, Repr

def Direction.of (n : Nat) : Direction :=
  if rightward.holds n then right
  else if arabicNumbers.holds n then arabicNumber
  else if europeanNumbers.holds n then europeanNumber
  else if neutrals.holds n then neutral
  else if Domain.nonspacing.holds n then .nonspacing
  else left

/-- Whether a text is written from right to left, if only in part. -/
def hasRightward (ds : List Direction) : Bool := ds.any fun d => d = .right ∨ d = .arabicNumber

/-- Whether a label is written in one direction. -/
def isStraight (ds : List Direction) : Bool :=
  let ending := (ds.reverse.dropWhile (· = .nonspacing)).head?
  match ds.head? with
  | none => true
  | some .left =>
    ds.all (fun d => d ≠ .right ∧ d ≠ .arabicNumber)
      && (ending = some .left || ending = some .europeanNumber)
  | some .right =>
    ds.all (· ≠ .left) && (ending.any fun d => d ≠ .neutral)
      && !(ds.contains .arabicNumber && ds.contains .europeanNumber)
  | some _ => false

/-! ## Labels -/

/-- The longest label that can be encoded. -/
def longestLabel : Nat := 1000

/-- Whether a label may stand in a domain, directions apart. -/
def isLabel (label : List Char) : Bool :=
  let ns := label.map Char.toNat
  isAscii label
    || (label.length ≤ longestLabel && !(ns.head?.any marks.holds) && joinersFit [] ns)

/-- Whether the labels may stand together. -/
def areLabels (labels : List (List Char)) : Bool :=
  let directions := labels.map fun label => label.map fun c => Direction.of c.toNat
  labels.all isLabel && (!directions.any hasRightward || directions.all isStraight)

end QueryCache.Web.Domain
