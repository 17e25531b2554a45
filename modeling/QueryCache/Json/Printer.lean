import QueryCache.Json.Basic
import QueryCache.Decimal.Shortest
import QueryCache.Text.Hex
/-!
# JSON text

Two layouts.  `render` is compact: no spaces, one spelling per value.  It is what keys are
made from, what ids are compared by across types and what sizes are counted in.  `pretty`
puts every item and field on a line of its own, two spaces deeper per level.

`canonical` first brings the fields of every object into order, so that the text does not
depend on the order they were written in.
-/

namespace QueryCache.Json

/-- The decimal digits of an integer, with a sign if it is negative. -/
def intText (n : Int) : List Char :=
  if n < 0 then '-' :: Nat.toDigits 10 n.natAbs else Nat.toDigits 10 n.natAbs

def numberText : Number → List Char
  | .int n => intText n
  | .float x => (Decimal.text x).toList

/-- Quote, backslash and the characters below U+0020 are escaped, all else stands as it is. -/
def escapeChar (c : Char) : List Char :=
  if c = '"' then ['\\', '"']
  else if c = '\\' then ['\\', '\\']
  else if c.toNat = 8 then ['\\', 'b']
  else if c.toNat = 9 then ['\\', 't']
  else if c.toNat = 10 then ['\\', 'n']
  else if c.toNat = 12 then ['\\', 'f']
  else if c.toNat = 13 then ['\\', 'r']
  else if c.toNat < 32 then
    ['\\', 'u', '0', '0', Text.lowerHex (c.toNat / 16), Text.lowerHex (c.toNat % 16)]
  else [c]

def quoted (s : String) : List Char :=
  '"' :: s.toList.flatMap escapeChar ++ ['"']

mutual

/-- The compact text of a value, fields in the order they are stored. -/
def render : Json → List Char
  | .null => "null".toList
  | .bool true => "true".toList
  | .bool false => "false".toList
  | .num n => numberText n
  | .str s => quoted s
  | .arr items => '[' :: renderItems items ++ [']']
  | .obj fields => '\x7b' :: renderFields fields ++ ['\x7d']

def renderItems : List Json → List Char
  | [] => []
  | [v] => render v
  | v :: rest => render v ++ ',' :: renderItems rest

def renderFields : List (String × Json) → List Char
  | [] => []
  | [(k, v)] => quoted k ++ ':' :: render v
  | (k, v) :: rest => quoted k ++ ':' :: render v ++ ',' :: renderFields rest

end

def text (v : Json) : String := String.ofList (render v)

mutual

/-- The value with the fields of every object in the order of their names. -/
def sorted : Json → Json
  | .arr items => .arr (sortedItems items)
  | .obj fields => .obj ((sortedFields fields).mergeSort fun a b => decide (a.1 ≤ b.1))
  | v => v

def sortedItems : List Json → List Json
  | [] => []
  | v :: rest => sorted v :: sortedItems rest

def sortedFields : List (String × Json) → List (String × Json)
  | [] => []
  | (k, v) :: rest => (k, sorted v) :: sortedFields rest

end

/-- The compact text with fields in order at every depth. -/
def canonical (v : Json) : String := v.sorted.text

mutual

/-- The indented text of a value that stands `depth` levels deep. -/
def prettyAt (depth : Nat) : Json → List Char
  | .arr [] => ['[', ']']
  | .arr items => '[' :: prettyItems (depth + 1) items ++ line depth ++ [']']
  | .obj [] => ['\x7b', '\x7d']
  | .obj fields => '\x7b' :: prettyFields (depth + 1) fields ++ line depth ++ ['\x7d']
  | v => render v

def prettyItems (depth : Nat) : List Json → List Char
  | [] => []
  | [v] => line depth ++ prettyAt depth v
  | v :: rest => line depth ++ prettyAt depth v ++ ',' :: prettyItems depth rest

def prettyFields (depth : Nat) : List (String × Json) → List Char
  | [] => []
  | [(k, v)] => line depth ++ quoted k ++ ':' :: ' ' :: prettyAt depth v
  | (k, v) :: rest =>
    line depth ++ quoted k ++ ':' :: ' ' :: prettyAt depth v ++ ',' :: prettyFields depth rest

/-- A line break and the indentation of a level. -/
def line (depth : Nat) : List Char := '\n' :: List.replicate (2 * depth) ' '

end

def pretty (v : Json) : String := String.ofList (prettyAt 0 v)

end QueryCache.Json
